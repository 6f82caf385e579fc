import Rollout.Proofs.Schema.Numerals

/-!
# Encoded amounts

An encoded amount is written with all the places that it needs, but the places are counted on a
number rounded to 28 digits. So it is accepted just if it is unsigned and a whole number of units:
a longer number may be written with more places than an amount has, and zero with a sign.
-/

set_option autoImplicit false

namespace Rollout

namespace Wire

open Rollout.Number

/-- Whole units that were counted are within the limit, however many digits they were given with. -/
theorem units_le_roundedLimit {coefficient units : Nat} {exponent : Int}
    (counted : exceedsUnits coefficient exponent = .ok false)
    (whole : Decimal.magnitude coefficient exponent * 10 ^ places = units) :
    units ≤ roundedLimit :=
  (exceedsUnits_of_units whole).mp counted

/-- Fixed notation is accepted unless it has a sign, too many places or too many units. -/
theorem check_pointed_iff (account : String) (negative : Bool) (value count : Nat) :
    Schema.Kind.decimal.check account
        (.text (String.ofList (Decimal.withSign negative (pointed value count).chars))) = .ok none ↔
      negative = false ∧ count ≤ places ∧ value * 10 ^ (places - count) ≤ roundedLimit := by
  rw [Schema.Kind.check_decimal_eq_none_iff]
  constructor
  · rintro ⟨amount, shown, within⟩
    rw [Shows, String.toList_ofList] at shown
    cases negative with
    | true =>
        obtain ⟨first, rest, shape, digit⟩ := amount.exists_head
        rw [shape] at shown
        -- an amount begins with a digit
        have sign : '-' = first := by
          rcases shown with plain | ended
          · exact (List.cons.inj plain).1
          · exact (List.cons.inj ended).1
        rw [← sign] at digit
        cases digit
    | false =>
        rcases shown with plain | ended
        · have same : pointed value count = amount.toNumeral := Numeral.chars_injective plain
          have coefficient := coefficient_pointed value count
          have length := length_fraction_pointed value count
          rw [same] at coefficient length
          rw [amount.units_eq, coefficient, length] at within
          exact ⟨rfl, length ▸ amount.few, within⟩
        · have member : '\n' ∈ (pointed value count).chars := by
            have shape : (pointed value count).chars = amount.chars ++ ['\n'] := ended
            simp [shape]
          rcases (pointed value count).isDigit_or_point '\n' member with digit | point
          · cases digit
          · cases point
  · rintro ⟨rfl, few, within⟩
    have length := length_fraction_pointed value count
    refine ⟨⟨pointed value count, by rw [length]; exact few⟩, shows_ofList _, ?_⟩
    rw [Amount.units_eq]
    simpa [coefficient_pointed, length] using within

/-- Whole units within the limit are accepted in fixed notation. -/
theorem check_printPlain_of_units {coefficient units : Nat} {exponent : Int} (account : String)
    (whole : Decimal.magnitude coefficient exponent * 10 ^ places = units)
    (within : units ≤ roundedLimit) :
    Schema.Kind.decimal.check account (.text (Decimal.printPlain false coefficient exponent)) =
      .ok none := by
  obtain ⟨value, count, shown, same, stripped⟩ :=
    Decimal.printPlain_eq false coefficient exponent
  have few : count ≤ places := (places_le_iff stripped places).mpr ⟨units, by rw [same, whole]⟩
  have counts : Decimal.magnitude value (-(count : Int)) * 10 ^ places = _ := magnitude_units few
  rw [same, whole] at counts
  have equal : units = value * 10 ^ (places - count) := by exact_mod_cast counts
  rw [shown, check_pointed_iff, ← equal]
  exact ⟨rfl, few, within⟩

/-- A number of few digits is not rounded, so its places were counted right. -/
theorem units_of_short {coefficient : Nat} {exponent last : Int}
    (normal : Decimal.normalExponent? coefficient exponent = some last)
    (few : -(places : Int) ≤ last) (short : digitCount coefficient ≤ Decimal.precision)
    (least : Decimal.tinyExponent ≤ exponent) :
    ∃ units : Nat, Decimal.magnitude coefficient exponent * 10 ^ places = units := by
  obtain ⟨number, rounded, units, whole⟩ :=
    (Decimal.placed_iff coefficient exponent places).mp ⟨last, normal, few⟩
  rw [Decimal.eq_magnitude_of_short short least rounded] at whole
  exact ⟨units, whole⟩

/-- What is encoded is accepted just if it is unsigned and a whole number of units. Up to 28 digits
every unsigned number is. -/
theorem encoded_accepted_iff {memory : Memory} {quantity : Quantity} {text : String}
    (account : String) (encoded : encodeDecimal memory quantity = .ok text) :
    ∃ negative coefficient exponent,
      quantity.toDecimal = .ok (.finite negative coefficient exponent) ∧
        (Schema.Kind.decimal.check account (.text text) = .ok none ↔
          negative = false ∧
            ∃ units : Nat, Decimal.magnitude coefficient exponent * 10 ^ places = units) ∧
        (negative = false → digitCount coefficient ≤ Decimal.precision →
          Decimal.tinyExponent ≤ exponent →
            Schema.Kind.decimal.check account (.text text) = .ok none) := by
  obtain ⟨negative, coefficient, exponent, last, given, counted, normal, few, rfl⟩ :=
    encodeDecimal_eq_ok encoded
  obtain ⟨value, count, shown, same, stripped⟩ :=
    Decimal.printPlain_eq negative coefficient exponent
  have accepted : Schema.Kind.decimal.check account
        (.text (Decimal.printPlain negative coefficient exponent)) = .ok none ↔
      negative = false ∧
        ∃ units : Nat, Decimal.magnitude coefficient exponent * 10 ^ places = units := by
    rw [shown, check_pointed_iff, ← same, ← places_le_iff stripped]
    refine and_congr_right fun _ => and_iff_left_of_imp fun within => ?_
    have whole : Decimal.magnitude value (-(count : Int)) * 10 ^ places = _ :=
      magnitude_units within
    rw [same] at whole
    exact units_le_roundedLimit counted whole
  refine ⟨negative, coefficient, exponent, given, accepted, fun unsigned short least => ?_⟩
  exact accepted.mpr ⟨unsigned, units_of_short normal few short least⟩

/-- A zero at the end is not written, and what is left is accepted. -/
theorem encoded_half_accepted :
    encodeDecimal .usual (.value (.text "2.50")) = .ok "2.5" ∧
      Schema.Kind.decimal.check "terra" (.text "2.5") = .ok none := by
  have encoded : encodeDecimal .usual (.value (.text "2.50")) = .ok "2.5" := by decide +kernel
  obtain ⟨negative, coefficient, exponent, given, _, accepted⟩ :=
    encoded_accepted_iff "terra" encoded
  have read : Quantity.toDecimal (.value (.text "2.50")) = .ok (.finite false 250 (-2)) := rfl
  rw [read] at given
  cases given
  exact ⟨encoded, accepted rfl (by decide) (by decide)⟩

/-- Thirty-one places, of which rounding leaves none to be counted, and a zero with a sign are
written as they are, and not accepted. -/
theorem encoded_beyond_precision_refused :
    encodeDecimal .usual (.value (.text "1.0000000000000000000000000000001")) =
        .ok "1.0000000000000000000000000000001" ∧
      Schema.Kind.decimal.check "terra" (.text "1.0000000000000000000000000000001") ≠ .ok none ∧
      encodeDecimal .usual (.value (.text "-0")) = .ok "-0" ∧
      Schema.Kind.decimal.check "terra" (.text "-0") ≠ .ok none := by
  refine ⟨by decide +kernel, ?_, by decide +kernel, ?_⟩
  · intro accepted
    cases accepted
  · intro accepted
    cases accepted

end Wire

end Rollout
