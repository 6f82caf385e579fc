import Rollout.Fault
import Rollout.Proofs.Number.Overflow
import Rollout.Proofs.Wire.Amount

/-!
# Refused amounts

An integer, a text or a decimal is encoded, or refused with a fault that quotes it. Two steps stand in
between and can fail on their own: both counts overflow on numbers that are too large to be rounded,
and a number with very many places cannot be written out.
-/

set_option autoImplicit false

namespace Rollout.Wire

open Rollout.Number

/-- What an amount may be given as. -/
inductive Quantity.Offered : Quantity → Prop where
  | integer (number : Int) : Offered (.value (.int number))
  | text (given : String) : Offered (.value (.text given))
  | decimal (given : Decimal) : Offered (.decimal given)

/-- A fault that says of a quantity, if it can be quoted, that it is no amount. -/
inductive Refuses (quantity : Quantity) : Fault → Prop where
  | invalid : Refuses quantity (.invalidDecimal quantity.literal)
  | improper : Refuses quantity (quantity.refuse .improperDecimal)
  | tooManyPlaces : Refuses quantity (quantity.refuse .tooManyPlaces)
  | outOfRange : Refuses quantity (quantity.refuse .decimalOutOfRange)

private theorem Quantity.refuse_cases (refusal : String → Fault) (quantity : Quantity) :
    quantity.refuse refusal = refusal quantity.literal ∨
      quantity.refuse refusal = .number .unwritable :=
  ite_eq_or_eq _ _ _

private theorem Refuses.isReported {quantity : Quantity} {fault : Fault}
    (refuses : Refuses quantity fault) : (Rollout.Fault.wire fault).isReported = true := by
  cases refuses with
  | invalid => rfl
  | improper | tooManyPlaces | outOfRange =>
      rcases quantity.refuse_cases _ with quoted | long
      · rw [quoted]
        rfl
      · rw [long]
        rfl

namespace Quantity

variable (memory : Memory) (quantity : Quantity)

/-- A quantity is written as an amount, or it is refused and the refusal is reported. -/
def Answered : Prop :=
  (∃ text, encodeDecimal memory quantity = .ok text) ∨
    ∃ fault, encodeDecimal memory quantity = .error fault ∧ Refuses quantity fault ∧
      (Rollout.Fault.wire fault).isReported = true

/-- A quantity is a finite number that is not negative. -/
def Gives (coefficient : Nat) (exponent : Int) : Prop :=
  ∃ negative, quantity.toDecimal = .ok (.finite negative coefficient exponent) ∧
    (negative = true → coefficient = 0)

/-- The units of a quantity are too many to be rounded. Where it has too many places to be written
out, it is so itself. -/
def Overflows : Prop :=
  ∃ coefficient exponent, quantity.Gives coefficient exponent ∧
    Decimal.overflowLimit ≤ Decimal.magnitude coefficient exponent * 10 ^ places ∧
    (-(memory.places : Int) ≤ exponent ∨
      Decimal.overflowLimit ≤ Decimal.magnitude coefficient exponent)

/-- A quantity has too many places to be written out, though none of them is left when it is
rounded to whole units. -/
def Unwritable : Prop :=
  ∃ coefficient exponent number, quantity.Gives coefficient exponent ∧
    exponent < -(memory.places : Int) ∧ Decimal.rounded? coefficient exponent = some number ∧
    ∃ units : Nat, number * 10 ^ places = units

end Quantity

/-!
## The steps
-/

variable {memory : Memory} {quantity : Quantity} {coefficient other : Nat} {exponent level last : Int}

private theorem Quantity.Offered.toDecimal_cases (offered : quantity.Offered) :
    (∃ given, quantity.toDecimal = .ok given) ∨
      quantity.toDecimal = .error (.invalidDecimal quantity.literal) := by
  cases offered with
  | integer number => exact .inl ⟨_, rfl⟩
  | decimal given => exact .inl ⟨given, rfl⟩
  | text given =>
      cases read : Decimal.read? given with
      | some number => exact .inl ⟨number, by rw [toDecimal, read]⟩
      | none => exact .inr (by rw [toDecimal, read]; rfl)

theorem Quantity.Gives.unique (gives : quantity.Gives coefficient exponent)
    (again : quantity.Gives other level) : coefficient = other ∧ exponent = level := by
  obtain ⟨negative, given, _⟩ := gives
  obtain ⟨sign, reread, _⟩ := again
  rw [given] at reread
  cases reread
  exact ⟨rfl, rfl⟩

private theorem Quantity.Gives.encodeDecimal_eq (gives : quantity.Gives coefficient exponent) :
    ∃ text, encodeDecimal memory quantity =
      match Decimal.normalExponent? coefficient exponent with
      | none => .error .overflow
      | some last =>
          if last < -(places : Int) then .error (quantity.refuse .tooManyPlaces)
          else if exponent < -(memory.places : Int) then .error .decimalTooLong
          else
            match exceedsUnits coefficient exponent with
            | .error fault => .error fault
            | .ok true => .error (quantity.refuse .decimalOutOfRange)
            | .ok false => .ok text := by
  obtain ⟨negative, given, unsigned⟩ := gives
  have proper : (negative && coefficient != 0) = false := by simpa using unsigned
  refine ⟨Decimal.printPlain negative coefficient exponent, ?_⟩
  rw [encodeDecimal, given]
  simp only [bind, Except.bind, proper, Bool.false_eq_true, if_false]
  cases Decimal.normalExponent? coefficient exponent with
  | none => rfl
  | some last =>
      cases exceedsUnits coefficient exponent with
      | error fault => rfl
      | ok exceeds => cases exceeds <;> rfl

private theorem Quantity.Offered.refused_of_not_gives (offered : quantity.Offered)
    (none : ∀ coefficient exponent, ¬ quantity.Gives coefficient exponent) :
    ∃ fault, encodeDecimal memory quantity = .error fault ∧ Refuses quantity fault := by
  rcases offered.toDecimal_cases with ⟨given, read⟩ | unread
  · refine ⟨_, ?_, .improper⟩
    rw [encodeDecimal, read]
    cases given with
    | infinite | nan => rfl
    | finite negative coefficient exponent =>
        have signed : (negative && coefficient != 0) = true := by
          have differs := none coefficient exponent
          simp only [Gives, read] at differs
          cases negative <;> simp_all
        simp [signed, bind, Except.bind]
  · refine ⟨_, ?_, .invalid⟩
    rw [encodeDecimal, unread]
    rfl

/-!
## Overflow
-/

theorem normalExponent?_eq_none_iff :
    Decimal.normalExponent? coefficient exponent = none ↔
      (Decimal.overflowLimit : ℚ) ≤ Decimal.magnitude coefficient exponent := by
  rw [Decimal.normalExponent?, Option.map_eq_none_iff, Decimal.fit?_eq_none_iff]

theorem exceedsUnits_eq_error_iff {fault : Fault} :
    exceedsUnits coefficient exponent = .error fault ↔
      fault = .overflow ∧
        (Decimal.overflowLimit : ℚ) ≤ Decimal.magnitude coefficient exponent * 10 ^ places := by
  rw [Decimal.magnitude_mul_ten_pow, ← Decimal.fit?_eq_none_iff, exceedsUnits,
    Decimal.scaledExceeds?]
  cases Decimal.fit? coefficient (exponent + places) with
  | none => simp [eq_comm]
  | some fitted => simp

/-- A number whose units overflow has no places to be counted. -/
theorem le_normalExponent?_of_large
    (normal : Decimal.normalExponent? coefficient exponent = some last)
    (large : (Decimal.overflowLimit : ℚ) ≤ Decimal.magnitude coefficient exponent * 10 ^ places) :
    -(places : Int) ≤ last := by
  rw [Decimal.magnitude_mul_ten_pow] at large
  have far := Decimal.lt_digitCount_of_overflowLimit_le large
  have nonzero : coefficient ≠ 0 := by
    rintro rfl
    rw [Decimal.magnitude_eq_zero_iff.mpr rfl] at large
    have positive : 0 < Decimal.overflowLimit :=
      Nat.lt_of_lt_of_le (Nat.pow_pos (by decide)) Decimal.le_overflowLimit
    exact absurd large (not_le.mpr (by exact_mod_cast positive))
  obtain ⟨⟨rounded, unit⟩, fitted, shown⟩ := Option.map_eq_some_iff.mp normal
  have least := Decimal.le_unit_of_fit? nonzero fitted
  unfold Decimal.precision Decimal.overflowTens places at *
  dsimp only at shown
  split at shown <;> omega

section

variable (gives : quantity.Gives coefficient exponent)
include gives

theorem Quantity.Gives.overflows_iff :
    quantity.Overflows memory ↔
      (Decimal.overflowLimit : ℚ) ≤ Decimal.magnitude coefficient exponent * 10 ^ places ∧
        (-(memory.places : Int) ≤ exponent ∨
          (Decimal.overflowLimit : ℚ) ≤ Decimal.magnitude coefficient exponent) := by
  constructor
  · rintro ⟨other, level, again, large, written⟩
    obtain ⟨rfl, rfl⟩ := gives.unique again
    exact ⟨large, written⟩
  · rintro ⟨large, written⟩
    exact ⟨coefficient, exponent, gives, large, written⟩

/-- The places that are left of a number are counted when it is rounded. -/
theorem Quantity.Gives.unwritable_iff :
    quantity.Unwritable memory ↔
      exponent < -(memory.places : Int) ∧
        ∃ last, Decimal.normalExponent? coefficient exponent = some last ∧
          -(places : Int) ≤ last := by
  rw [Decimal.placed_iff]
  constructor
  · rintro ⟨other, level, number, again, many, rounded, whole⟩
    obtain ⟨rfl, rfl⟩ := gives.unique again
    exact ⟨many, number, rounded, whole⟩
  · rintro ⟨many, number, rounded, whole⟩
    exact ⟨coefficient, exponent, number, gives, many, rounded, whole⟩

/-- A number that is finite and not negative is answered, or one of the two steps fails. -/
theorem Quantity.Gives.cases :
    quantity.Answered memory ∧ ¬ quantity.Overflows memory ∧ ¬ quantity.Unwritable memory ∨
      encodeDecimal memory quantity = .error .overflow ∧ quantity.Overflows memory ∧
        ¬ quantity.Unwritable memory ∨
      encodeDecimal memory quantity = .error .decimalTooLong ∧ quantity.Unwritable memory ∧
        ¬ quantity.Overflows memory := by
  obtain ⟨text, encoded⟩ := gives.encodeDecimal_eq
  rw [gives.overflows_iff, gives.unwritable_iff]
  cases normal : Decimal.normalExponent? coefficient exponent with
  | none =>
      have large := normalExponent?_eq_none_iff.mp normal
      rw [normal] at encoded
      have scaled : (Decimal.overflowLimit : ℚ) ≤
          Decimal.magnitude coefficient exponent * 10 ^ places := by
        refine large.trans (le_mul_of_one_le_right ?_ ?_)
        · exact (Nat.cast_nonneg _).trans large
        · exact_mod_cast Nat.one_le_pow places 10 (by decide)
      exact .inr (.inl ⟨encoded, ⟨scaled, .inr large⟩, by simp⟩)
  | some last =>
      have small : ¬ (Decimal.overflowLimit : ℚ) ≤ Decimal.magnitude coefficient exponent := by
        rw [← normalExponent?_eq_none_iff, normal]
        simp
      rw [normal] at encoded
      dsimp only at encoded
      by_cases few : last < -(places : Int)
      · rw [if_pos few] at encoded
        refine .inl ⟨.inr ⟨_, encoded, .tooManyPlaces, Refuses.tooManyPlaces.isReported⟩, ?_, ?_⟩
        · rintro ⟨large, _⟩
          exact absurd few (Int.not_lt.mpr (le_normalExponent?_of_large normal large))
        · rintro ⟨_, other, same, least⟩
          cases same
          omega
      rw [if_neg few] at encoded
      by_cases many : exponent < -(memory.places : Int)
      · rw [if_pos many] at encoded
        refine .inr (.inr ⟨encoded, ⟨many, last, rfl, Int.le_of_not_gt few⟩, ?_⟩)
        rintro ⟨_, written | large⟩
        · omega
        · exact small large
      rw [if_neg many] at encoded
      have written : ¬ (exponent < -(memory.places : Int) ∧
          ∃ other, some last = some other ∧ -(places : Int) ≤ other) := fun both => many both.1
      cases counted : exceedsUnits coefficient exponent with
      | error fault =>
          obtain ⟨rfl, large⟩ := exceedsUnits_eq_error_iff.mp counted
          rw [counted] at encoded
          exact .inr (.inl ⟨encoded, ⟨large, .inl (Int.le_of_not_gt many)⟩, written⟩)
      | ok exceeds =>
          have fits : ¬ (Decimal.overflowLimit : ℚ) ≤
              Decimal.magnitude coefficient exponent * 10 ^ places := by
            intro large
            rw [exceedsUnits_eq_error_iff.mpr ⟨rfl, large⟩] at counted
            cases counted
          rw [counted] at encoded
          refine .inl ⟨?_, fun overflows => fits overflows.1, written⟩
          cases exceeds with
          | true => exact .inr ⟨_, encoded, .outOfRange, Refuses.outOfRange.isReported⟩
          | false => exact .inl ⟨text, encoded⟩

end

/-- Every quantity that is offered is answered, but for numbers that overflow and those that
cannot be written out. -/
theorem Quantity.Offered.cases (memory : Memory) (offered : quantity.Offered) :
    quantity.Answered memory ∧ ¬ quantity.Overflows memory ∧ ¬ quantity.Unwritable memory ∨
      encodeDecimal memory quantity = .error .overflow ∧ quantity.Overflows memory ∧
        ¬ quantity.Unwritable memory ∨
      encodeDecimal memory quantity = .error .decimalTooLong ∧ quantity.Unwritable memory ∧
        ¬ quantity.Overflows memory := by
  by_cases given : ∃ coefficient exponent, quantity.Gives coefficient exponent
  · obtain ⟨coefficient, exponent, gives⟩ := given
    exact gives.cases
  · obtain ⟨fault, encoded, refuses⟩ :=
      offered.refused_of_not_gives fun coefficient exponent gives => given ⟨_, _, gives⟩
    refine .inl ⟨.inr ⟨fault, encoded, refuses, refuses.isReported⟩, ?_, ?_⟩
    · rintro ⟨coefficient, exponent, gives, _⟩
      exact given ⟨coefficient, exponent, gives⟩
    · rintro ⟨coefficient, exponent, _, gives, _⟩
      exact given ⟨coefficient, exponent, gives⟩

private theorem Quantity.Answered.encodeDecimal_ne (answered : quantity.Answered memory) :
    encodeDecimal memory quantity ≠ .error .overflow ∧
      encodeDecimal memory quantity ≠ .error .decimalTooLong := by
  rcases answered with ⟨text, encoded⟩ | ⟨fault, encoded, _, reported⟩
  · simp [encoded]
  · rw [encoded]
    constructor
    · rintro ⟨rfl⟩
      cases reported
    · rintro ⟨rfl⟩
      cases reported

/-- An integer, a text or a decimal is written or refused, whatever its size, unless its units are
too many to be rounded, from `99999999999999999999999999995 * 10 ^ 999971` on, or it has more
places than the memory holds. -/
theorem encodeDecimal_answered_iff (offered : quantity.Offered) :
    (quantity.Answered memory ↔ ¬ quantity.Overflows memory ∧ ¬ quantity.Unwritable memory) ∧
      (encodeDecimal memory quantity = .error .overflow ↔ quantity.Overflows memory) ∧
      (encodeDecimal memory quantity = .error .decimalTooLong ↔ quantity.Unwritable memory) := by
  rcases offered.cases memory with ⟨answered, fits, written⟩ | ⟨encoded, overflows, written⟩ |
    ⟨encoded, unwritable, fits⟩
  · obtain ⟨calm, short⟩ := answered.encodeDecimal_ne
    simp [answered, fits, written, calm, short]
  · have unanswered : ¬ quantity.Answered memory :=
      fun answered => answered.encodeDecimal_ne.1 encoded
    simp [unanswered, encoded, overflows, written]
  · have unanswered : ¬ quantity.Answered memory :=
      fun answered => answered.encodeDecimal_ne.2 encoded
    simp [unanswered, encoded, unwritable, fits]

/-- Just at the limit the units overflow, and one unit of the last digit below it the number is
refused as every other that is out of range. -/
theorem limit_answered_iff :
    Quantity.Offered (.decimal (.finite false 99999999999999999999999999995 999953)) ∧
      Quantity.Overflows .usual (.decimal (.finite false 99999999999999999999999999995 999953)) ∧
      Quantity.Offered (.decimal (.finite false 99999999999999999999999999994 999953)) ∧
      ¬ Quantity.Overflows .usual (.decimal (.finite false 99999999999999999999999999994 999953)) := by
  have reached : encodeDecimal .usual (.decimal (.finite false 99999999999999999999999999995 999953)) =
      .error .overflow := by decide +kernel
  have missed : encodeDecimal .usual (.decimal (.finite false 99999999999999999999999999994 999953)) ≠
      .error .overflow := by decide +kernel
  refine ⟨.decimal _, ?_, .decimal _, ?_⟩
  · exact (encodeDecimal_answered_iff (.decimal _)).2.1.mp reached
  · exact fun overflows => missed ((encodeDecimal_answered_iff (.decimal _)).2.1.mpr overflows)

/-- A text with an exponent of seven digits is neither written nor refused, and so is one whose
units overflow only when they are counted. -/
theorem hugeAmounts_unanswered :
    encodeDecimal .usual (.value (.text "1E+1000000")) = .error .overflow ∧
      encodeDecimal .usual (.value (.text "1E+999982")) = .error .overflow ∧
      ¬ Quantity.Answered .usual (.value (.text "1E+1000000")) ∧
      (Rollout.Fault.wire .overflow).isReported = false := by
  have overflow : encodeDecimal .usual (.value (.text "1E+1000000")) = .error .overflow := by
    decide +kernel
  refine ⟨overflow, by decide +kernel, fun answered => ?_, rfl⟩
  exact answered.encodeDecimal_ne.1 overflow

end Rollout.Wire
