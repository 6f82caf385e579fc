import Rollout.Proofs.Computation
import Rollout.Proofs.Number.Spelling
import Rollout.Schema.Kind

/-!
# Limits of amounts

The units of an amount are counted in decimal arithmetic of 28 digits and only then compared with
the largest number of 128 bits, which has 39. So the limit that is kept to is another one: all that
is rounded down to the last multiple of `10 ^ 11` below `2 ^ 128` is accepted. The places of a number
are counted in the same arithmetic, and it is encoded if both counts let it pass.
-/

set_option autoImplicit false

namespace Rollout.Wire

open Rollout.Number

/-- The most units that are accepted: half way between the multiples of `10 ^ 11` on both sides of
`2 ^ 128`. -/
def roundedLimit : Nat := 340282366920938463463374607450000000000

/-- The first 28 digits of the largest number of 128 bits. -/
def limitDigits : Nat := 3402823669209384634633746074

private theorem maxUint128_eq : maxUint128 = 340282366920938463463374607431768211455 := rfl

private theorem maxUint128_lt_nearest_of_short {coefficient : Nat} (shift : Nat)
    (short : digitCount coefficient ≤ Decimal.precision) :
    maxUint128 < Decimal.nearest coefficient shift ↔ roundedLimit < coefficient * 10 ^ shift := by
  have few : coefficient < 10 ^ 28 := (digitCount_le_iff (by decide)).mp short
  rw [Decimal.nearest, if_pos short, maxUint128_eq, roundedLimit]
  rcases Nat.lt_or_ge shift 11 with small | large
  · have below : coefficient * 10 ^ shift < 10 ^ 28 * 10 ^ 10 :=
      Nat.mul_lt_mul_of_lt_of_le few (Nat.pow_le_pow_right (by decide) (by omega)) (by decide)
    omega
  · -- no multiple of so many tens is between the two limits
    obtain ⟨more, rfl⟩ := Nat.exists_eq_add_of_le large
    have multiple : coefficient * 10 ^ (11 + more) = coefficient * 10 ^ more * 10 ^ 11 := by
      rw [Nat.pow_add, Nat.mul_assoc, Nat.mul_comm (10 ^ 11)]
    rw [multiple]
    generalize coefficient * 10 ^ more = count
    omega

/-- Where rounding makes the last digit stand for `10 ^ 11` units, it decides about the limit. -/
theorem limitDigits_lt_divideNearest_iff {coefficient dropped shift : Nat}
    (aligned : dropped + shift = 11) :
    limitDigits < divideNearest coefficient (10 ^ dropped) ↔
      roundedLimit < coefficient * 10 ^ shift := by
  have scale : 0 < 10 ^ shift := Nat.pow_pos (by decide)
  have scaled : (2 * limitDigits + 1) * 10 ^ dropped * 10 ^ shift = 2 * roundedLimit := by
    rw [Nat.mul_assoc, ← Nat.pow_add, aligned]
    rfl
  rw [lt_divideNearest_iff (Nat.pow_pos (by decide)) (by decide),
    ← Nat.mul_lt_mul_right scale, scaled, Nat.mul_assoc 2]
  omega

private theorem maxUint128_lt_nearest_of_long {coefficient : Nat} (shift : Nat)
    (long : Decimal.precision < digitCount coefficient) :
    maxUint128 < Decimal.nearest coefficient shift ↔ roundedLimit < coefficient * 10 ^ shift := by
  have least := pow_pred_digitCount_le (Decimal.ne_zero_of_long long)
  have most := lt_pow_digitCount coefficient
  obtain ⟨low, high⟩ := Decimal.firstDigits_bounds long
  rw [Decimal.nearest, if_neg (Nat.not_le.mpr long)]
  unfold Decimal.precision at *
  obtain ⟨dropped, count⟩ : ∃ dropped, digitCount coefficient = 28 + dropped :=
    ⟨digitCount coefficient - 28, by omega⟩
  have places : digitCount coefficient - 28 = dropped := by omega
  rw [places] at low high ⊢
  rw [count] at least most
  rcases Nat.lt_trichotomy (dropped + shift) 11 with small | middle | large
  · have roundedBelow : divideNearest coefficient (10 ^ dropped) * 10 ^ (dropped + shift) ≤
        10 ^ 28 * 10 ^ 10 :=
      Nat.mul_le_mul high (Nat.pow_le_pow_right (by decide) (by omega))
    have below : coefficient * 10 ^ shift < 10 ^ 38 := by
      calc coefficient * 10 ^ shift < 10 ^ (28 + dropped) * 10 ^ shift :=
            Nat.mul_lt_mul_of_pos_right most (Nat.pow_pos (by decide))
        _ = 10 ^ (28 + dropped + shift) := (Nat.pow_add ..).symm
        _ ≤ 10 ^ 38 := Nat.pow_le_pow_right (by decide) (by omega)
    rw [maxUint128_eq, roundedLimit]
    omega
  · rw [middle, ← limitDigits_lt_divideNearest_iff middle, maxUint128_eq, limitDigits]
    omega
  · have roundedAbove : 10 ^ 27 * 10 ^ 12 ≤
        divideNearest coefficient (10 ^ dropped) * 10 ^ (dropped + shift) :=
      Nat.mul_le_mul low (Nat.pow_le_pow_right (by decide) (by omega))
    have above : 10 ^ 39 ≤ coefficient * 10 ^ shift := by
      calc 10 ^ 39 ≤ 10 ^ (28 + dropped - 1 + shift) :=
            Nat.pow_le_pow_right (by decide) (by omega)
        _ = 10 ^ (28 + dropped - 1) * 10 ^ shift := Nat.pow_add ..
        _ ≤ coefficient * 10 ^ shift := Nat.mul_le_mul_right _ least
    rw [maxUint128_eq, roundedLimit]
    omega

theorem maxUint128_lt_nearest_iff (coefficient shift : Nat) :
    maxUint128 < Decimal.nearest coefficient shift ↔ roundedLimit < coefficient * 10 ^ shift := by
  by_cases short : digitCount coefficient ≤ Decimal.precision
  · exact maxUint128_lt_nearest_of_short shift short
  · exact maxUint128_lt_nearest_of_long shift (Nat.lt_of_not_le short)

/-- Whole units are accepted up to the rounded limit. Beyond it they are refused, or there are too
many of them to be counted. -/
theorem exceedsUnits_eq_false_iff {coefficient shift : Nat} {exponent : Int}
    (scaled : exponent + places = shift) :
    exceedsUnits coefficient exponent = .ok false ↔ coefficient * 10 ^ shift ≤ roundedLimit := by
  unfold exceedsUnits
  rcases Decimal.scaledExceeds?_cases coefficient scaled maxUint128 with
    ⟨overflow, large⟩ | judged
  · rw [overflow]
    have beyond : 10 ^ 40 ≤ coefficient * 10 ^ shift := large 40 (by decide)
    unfold roundedLimit
    constructor
    · intro accepted
      cases accepted
    · omega
  · rw [judged]
    have limit := maxUint128_lt_nearest_iff coefficient shift
    simp only [Except.ok.injEq, decide_eq_false_iff_not, limit, Nat.not_lt]

section

variable {memory : Memory} {negative : Bool} {coefficient other units : Nat} {exponent level : Int}

private theorem exceedsUnits_congr
    (same : Decimal.magnitude coefficient exponent = Decimal.magnitude other level) :
    exceedsUnits coefficient exponent = exceedsUnits other level := by
  rw [exceedsUnits, exceedsUnits, Decimal.scaledExceeds?_congr same]

theorem exceedsUnits_of_units
    (whole : Decimal.magnitude coefficient exponent * 10 ^ places = units) :
    exceedsUnits coefficient exponent = .ok false ↔ units ≤ roundedLimit := by
  have scaled : -(places : Int) + places = ((0 : Nat) : Int) := by omega
  rw [exceedsUnits_congr (magnitude_of_units whole), exceedsUnits_eq_false_iff scaled,
    Nat.pow_zero, Nat.mul_one]

/-- What makes a finite number one that is written. -/
structure Expressible (memory : Memory) (negative : Bool) (coefficient : Nat) (exponent : Int) :
    Prop where
  unsigned : negative = true → coefficient = 0
  placed : ∃ last, Decimal.normalExponent? coefficient exponent = some last ∧
    -(places : Int) ≤ last
  written : -(memory.places : Int) ≤ exponent
  within : exceedsUnits coefficient exponent = .ok false

/-- Another spelling of a number is written too, unless it has too many places to be written. -/
theorem Expressible.congr (expressible : Expressible memory negative coefficient exponent)
    (same : Decimal.magnitude coefficient exponent = Decimal.magnitude other level)
    (written : -(memory.places : Int) ≤ level) : Expressible memory negative other level where
  unsigned signed := by
    rw [← Decimal.magnitude_eq_zero_iff, ← same, Decimal.magnitude_eq_zero_iff]
    exact expressible.unsigned signed
  placed := (Decimal.placed_congr same places).mp expressible.placed
  written := written
  within := by
    rw [← exceedsUnits_congr same]
    exact expressible.within

/-- Whole units within the limit are written. Rounding does not get in the way: these are few
digits, if they are spelt without the zeros behind them. -/
theorem Expressible.of_units
    (whole : Decimal.magnitude coefficient exponent * 10 ^ places = units)
    (within : units ≤ roundedLimit) (written : -(memory.places : Int) ≤ exponent) :
    Expressible memory false coefficient exponent where
  unsigned signed := by cases signed
  placed := by
    rw [Decimal.placed_congr (magnitude_of_units whole)]
    have fractional : -(places : Int) ≤ 0 := by omega
    have few : units < 10 ^ 40 := by
      unfold roundedLimit at within
      omega
    cases normal : Decimal.normalExponent? units (-(places : Int)) with
    | some last => exact ⟨last, rfl, Decimal.le_of_normalExponent? fractional normal⟩
    | none =>
        have fitted := Decimal.fit?_isSome few fractional
        rw [Option.map_eq_none_iff.mp normal] at fitted
        cases fitted
  written := written
  within := (exceedsUnits_of_units whole).mpr within

/-- What is encoded is a finite number that is written, in fixed notation. -/
theorem encodeDecimal_eq_ok_iff {quantity : Quantity} {text : String} :
    encodeDecimal memory quantity = .ok text ↔
      ∃ negative coefficient exponent,
        quantity.toDecimal = .ok (.finite negative coefficient exponent) ∧
          Expressible memory negative coefficient exponent ∧
          text = Decimal.printPlain negative coefficient exponent := by
  constructor
  · intro encoded
    unfold encodeDecimal at encoded
    obtain ⟨number, given, judged⟩ := Computation.bind_eq_ok encoded
    cases number with
    | infinite | nan => cases judged
    | finite negative coefficient exponent =>
        refine ⟨negative, coefficient, exponent, given, ?_⟩
        dsimp only at judged
        split at judged
        · cases judged
        next unsigned =>
        split at judged
        · cases judged
        next last normal =>
        split at judged
        · cases judged
        next few =>
        split at judged
        · cases judged
        next written =>
        obtain ⟨exceeds, counted, ended⟩ := Computation.bind_eq_ok judged
        cases exceeds with
        | true => cases ended
        | false =>
            cases ended
            refine ⟨⟨?_, ⟨last, normal, Int.le_of_not_gt few⟩, Int.le_of_not_gt written,
              counted⟩, rfl⟩
            simpa using unsigned
  · rintro ⟨negative, coefficient, exponent, given, expressible, rfl⟩
    obtain ⟨last, normal, few⟩ := expressible.placed
    have unsigned : (negative && coefficient != 0) = false := by
      simpa using expressible.unsigned
    have written := expressible.written
    rw [encodeDecimal, given]
    simp [unsigned, normal, expressible.within, Int.not_lt.mpr few, Int.not_lt.mpr written, bind,
      Except.bind, pure, Except.pure]

theorem encodeDecimal_eq_ok {quantity : Quantity} {text : String}
    (encoded : encodeDecimal memory quantity = .ok text) :
    ∃ negative coefficient exponent last,
      quantity.toDecimal = .ok (.finite negative coefficient exponent) ∧
        exceedsUnits coefficient exponent = .ok false ∧
        Decimal.normalExponent? coefficient exponent = some last ∧ -(places : Int) ≤ last ∧
        text = Decimal.printPlain negative coefficient exponent := by
  obtain ⟨negative, coefficient, exponent, given, expressible, shown⟩ :=
    encodeDecimal_eq_ok_iff.mp encoded
  obtain ⟨last, normal, few⟩ := expressible.placed
  exact ⟨negative, coefficient, exponent, last, given, expressible.within, normal, few, shown⟩

end

/-- A numeral with as many places as an amount may have. -/
structure Amount extends Numeral where
  few : fraction.length ≤ places

namespace Amount

/-- The units that an amount denotes. -/
def units (amount : Amount) : Nat :=
  Nat.ofDigitChars 10 amount.whole 0 * 10 ^ places +
    Nat.ofDigitChars 10 amount.fraction 0 * 10 ^ (places - amount.fraction.length)

variable (amount : Amount)

theorem units_eq :
    amount.units = amount.coefficient * 10 ^ (places - amount.fraction.length) := by
  have few := amount.few
  have split : 10 ^ places =
      10 ^ amount.fraction.length * 10 ^ (places - amount.fraction.length) := by
    rw [← Nat.pow_add, Nat.add_sub_cancel' few]
  rw [units, Numeral.coefficient, Nat.ofDigitChars_append,
    ofDigitChars_init amount.fraction (Nat.ofDigitChars 10 amount.whole 0), Nat.add_mul,
    Nat.mul_assoc, ← split]

private theorem coefficient_le_units : amount.coefficient ≤ amount.units := by
  rw [amount.units_eq]
  exact Nat.le_mul_of_pos_right _ (Nat.pow_pos (by decide))

theorem isDecimalText_text : isDecimalText amount.text = true := by
  have wholeDigits : ∀ char ∈ amount.whole, char.isDigit = true :=
    fun char member => amount.digits char (List.mem_append_left _ member)
  have fractionDigits : ∀ char ∈ amount.fraction, char.isDigit = true :=
    fun char member => amount.digits char (List.mem_append_right _ member)
  have unended : withoutFinalNewline amount.chars = amount.chars := by
    rw [withoutFinalNewline, if_neg]
    intro ended
    rcases amount.isDigit_or_point '\n' (List.mem_of_getLast? ended) with digit | point
    · cases digit
    · cases point
  unfold isDecimalText Numeral.text
  rw [String.toList_ofList, unended]
  unfold Numeral.chars
  dsimp only
  rw [List.takeWhile_append_of_pos wholeDigits, List.dropWhile_append_of_pos wholeDigits]
  by_cases integral : amount.fraction = []
  · simp [integral, amount.nonempty]
  · have few := amount.few
    simpa [integral, amount.nonempty, few] using fractionDigits

/-- An amount is read with its digits and places. Only one that is far beyond every limit is too
long for that. -/
theorem read?_cases :
    (Decimal.read? amount.text = none ∧
        ∀ count : Nat, (count : Int) ≤ Decimal.leadingLimit → 10 ^ count ≤ amount.units) ∨
      Decimal.read? amount.text =
        some (.finite false amount.coefficient (-(amount.fraction.length : Int))) := by
  have few := amount.few
  rw [amount.read?_text, Decimal.ofScaled?]
  split
  · next long =>
      refine .inl ⟨rfl, fun count within => ?_⟩
      simp only [Bool.or_eq_true, decide_eq_true_eq] at long
      unfold places at few
      unfold Decimal.trailingLimit at long
      have many : count < digitCount amount.coefficient := by omega
      refine Nat.le_trans (pow_le_of_lt_digitCount ?_ many) amount.coefficient_le_units
      intro zero
      have single : digitCount 0 = 1 := rfl
      rw [zero, single] at long
      unfold Decimal.leadingLimit at long
      omega
  · exact .inr rfl

theorem exceedsUnits_eq_false_iff :
    exceedsUnits amount.coefficient (-(amount.fraction.length : Int)) = .ok false ↔
      amount.units ≤ roundedLimit := by
  have few := amount.few
  rw [amount.units_eq]
  exact Wire.exceedsUnits_eq_false_iff (by omega)

theorem check_eq_none_iff (account : String) :
    Schema.Kind.decimal.check account (.text amount.text) = .ok none ↔
      amount.units ≤ roundedLimit := by
  have form := amount.isDecimalText_text
  have checked : Schema.Kind.decimal.check account (.text amount.text) =
      Schema.Kind.checkAmount amount.text := by
    simp [Schema.Kind.check, Schema.Kind.checkText, form]
  rw [checked, Schema.Kind.checkAmount]
  rcases amount.read?_cases with ⟨long, large⟩ | read
  · have beyond : 10 ^ 40 ≤ amount.units := large 40 (by decide)
    rw [long, roundedLimit]
    constructor
    · intro accepted
      cases accepted
    · omega
  · rw [read, ← amount.exceedsUnits_eq_false_iff]
    dsimp only
    cases exceedsUnits amount.coefficient (-(amount.fraction.length : Int)) with
    | error fault => simp [bind, Except.bind]
    | ok exceeds => cases exceeds <;> simp [bind, Except.bind, pure, Except.pure]

theorem magnitude_units : Decimal.magnitude amount.coefficient (-(amount.fraction.length : Int)) *
    10 ^ places = amount.units := by
  rw [amount.units_eq]
  exact Number.magnitude_units amount.few

theorem expressible (memory : Memory) (within : amount.units ≤ roundedLimit) :
    Expressible memory false amount.coefficient (-(amount.fraction.length : Int)) := by
  have few := Nat.le_trans amount.few memory.enough
  exact .of_units amount.magnitude_units within (by omega)

theorem encodeDecimal_isOk_iff (memory : Memory) :
    (∃ text, encodeDecimal memory (.value (.text amount.text)) = .ok text) ↔
      amount.units ≤ roundedLimit := by
  rcases amount.read?_cases with ⟨long, large⟩ | read
  · have beyond : 10 ^ 40 ≤ amount.units := large 40 (by decide)
    have failed : encodeDecimal memory (.value (.text amount.text)) =
        .error (.invalidDecimal (Value.text amount.text).literal) := by
      simp [encodeDecimal, Quantity.toDecimal, long, bind, Except.bind]
    rw [failed, roundedLimit]
    constructor
    · rintro ⟨_, accepted⟩
      cases accepted
    · omega
  · constructor
    · rintro ⟨text, encoded⟩
      obtain ⟨_, _, _, _, given, counted, _⟩ := encodeDecimal_eq_ok encoded
      rw [Quantity.toDecimal, read] at given
      cases given
      exact amount.exceedsUnits_eq_false_iff.mp counted
    · intro within
      have given : Quantity.toDecimal (.value (.text amount.text)) =
          .ok (.finite false amount.coefficient (-(amount.fraction.length : Int))) := by
        rw [Quantity.toDecimal, read]
      exact ⟨_, encodeDecimal_eq_ok_iff.mpr ⟨_, _, _, given, amount.expressible memory within, rfl⟩⟩

end Amount

/-- The check and the encoder accept the same amounts: those up to the rounded limit. -/
theorem amount_accepted_iff (memory : Memory) (account : String) (amount : Amount) :
    (Schema.Kind.decimal.check account (.text amount.text) = .ok none ↔
        amount.units ≤ roundedLimit) ∧
      ((∃ text, encodeDecimal memory (.value (.text amount.text)) = .ok text) ↔
        amount.units ≤ roundedLimit) := by
  constructor
  · exact amount.check_eq_none_iff account
  · exact amount.encodeDecimal_isOk_iff memory

/-- The amount of `2 ^ 128` units. -/
def tooLarge : Amount where
  whole := "340282366920938463463".toList
  fraction := "374607431768211456".toList
  nonempty := by decide
  digits := List.all_eq_true.mp rfl
  few := by decide

/-- An amount that does not fit 128 bits is accepted. -/
theorem tooLarge_accepted :
    tooLarge.text = "340282366920938463463.374607431768211456" ∧
      ¬ tooLarge.units ≤ maxUint128 ∧
      Schema.Kind.decimal.check "terra" (.text tooLarge.text) = .ok none ∧
      ∀ memory, ∃ text, encodeDecimal memory (.value (.text tooLarge.text)) = .ok text := by
  have units : tooLarge.units = 340282366920938463463374607431768211456 := by decide
  have within : tooLarge.units ≤ roundedLimit := by
    rw [units, roundedLimit]
    omega
  refine ⟨by decide, ?_, ?_, ?_⟩
  · rw [units, maxUint128_eq]
    omega
  · exact (tooLarge.check_eq_none_iff "terra").mpr within
  · exact fun memory => (tooLarge.encodeDecimal_isOk_iff memory).mpr within

end Rollout.Wire
