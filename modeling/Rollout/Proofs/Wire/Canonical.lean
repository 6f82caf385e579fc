import Rollout.Proofs.Wire.Encoding

/-!
# Canonical amounts

What is encoded is read as the same number again, and so it is encoded as itself. Amounts that are
accepted are encoded alike just if they are the same number.
-/

set_option autoImplicit false

namespace Rollout.Wire

open Rollout.Number

/-- A quantity is read as a number. -/
def Quantity.Denotes (quantity : Quantity) (number : ℚ) : Prop :=
  ∃ given, quantity.toDecimal = .ok given ∧ given.number? = some number

theorem Quantity.Denotes.unique {quantity : Quantity} {number other : ℚ}
    (left : quantity.Denotes number) (right : quantity.Denotes other) : number = other := by
  obtain ⟨given, read, denoted⟩ := left
  obtain ⟨again, reread, denotedToo⟩ := right
  rw [read] at reread
  cases reread
  rw [denoted] at denotedToo
  exact Option.some.inj denotedToo

/-!
## Reading what is written
-/

section

variable {memory : Memory} {negative : Bool} {coefficient : Nat} {exponent : Int}

private theorem Expressible.fitted
    (expressible : Expressible memory negative coefficient exponent) :
    (Decimal.fit? coefficient (exponent + places)).isSome = true := by
  have within := expressible.within
  unfold exceedsUnits Decimal.scaledExceeds? at within
  cases fitted : Decimal.fit? coefficient (exponent + places) with
  | some => rfl
  | none =>
      rw [fitted] at within
      cases within

private theorem Expressible.ofScaled?_eq (expressible : Expressible memory negative coefficient exponent)
    (fractional : exponent ≤ 0) :
    Decimal.ofScaled? negative coefficient exponent =
      some (.finite negative coefficient exponent) := by
  have leading : (digitCount coefficient : Int) + exponent - 1 ≤ Decimal.leadingLimit := by
    unfold Decimal.leadingLimit
    by_cases zero : coefficient = 0
    · have single : digitCount coefficient = 1 := by rw [zero]; rfl
      omega
    · have most := Decimal.leading_of_fit? zero expressible.fitted
      unfold Decimal.maxExponent at most
      omega
  have trailing : Decimal.trailingLimit ≤ exponent := by
    exact Int.le_trans memory.bounded expressible.written
  simp [Decimal.ofScaled?, Int.not_lt.mpr leading, Int.not_lt.mpr trailing]

/-- What is written is read as the number in its last spelling, which is written as well. -/
theorem Expressible.toDecimal_printPlain
    (expressible : Expressible memory negative coefficient exponent) :
    ∃ value level,
      Quantity.toDecimal (.value (.text (Decimal.printPlain negative coefficient exponent))) =
          .ok (.finite negative value level) ∧
        Decimal.magnitude coefficient exponent = Decimal.magnitude value level ∧
        Expressible memory negative value level := by
  obtain ⟨value, count, shown, same, stripped⟩ :=
    Decimal.printPlain_eq negative coefficient exponent
  have few := places_le_of_magnitude_eq stripped same expressible.written
  have again : Expressible memory negative value (-(count : Int)) :=
    expressible.congr same.symm (by omega)
  refine ⟨value, -(count : Int), ?_, same.symm, again⟩
  cases negative with
  | false =>
      have read := (pointed value count).read?_text
      rw [coefficient_pointed, length_fraction_pointed, again.ofScaled?_eq (by omega)] at read
      have plain : Decimal.printPlain false coefficient exponent = (pointed value count).text :=
        shown
      rw [Quantity.toDecimal, plain, read]
  | true =>
      -- only zero is written with a sign
      have zero := expressible.unsigned rfl
      have none := again.unsigned rfl
      have integral : count = 0 := by
        by_contra fractional
        exact stripped fractional (by rw [none])
      have plain : Decimal.printPlain true 0 exponent = "-0" := rfl
      have read : Decimal.read? "-0" = some (.finite true 0 0) := by decide +kernel
      rw [zero, none, integral, plain, Quantity.toDecimal, read]
      rfl

private theorem Expressible.denotes
    (expressible : Expressible memory negative coefficient exponent) :
    Quantity.Denotes (.value (.text (Decimal.printPlain negative coefficient exponent)))
      (if negative then -Decimal.magnitude coefficient exponent
        else Decimal.magnitude coefficient exponent) := by
  obtain ⟨value, level, read, same, _⟩ := expressible.toDecimal_printPlain
  refine ⟨_, read, ?_⟩
  rw [Decimal.number?, same]

end

/-!
## Encoding
-/

/-- Encoding keeps the number. It writes no exponent, and no zero or point at the end of a
fraction, and a second encoding changes nothing. -/
theorem encoded_canonical {memory : Memory} {quantity : Quantity} {text : String}
    (encoded : encodeDecimal memory quantity = .ok text) :
    (∃ number, quantity.Denotes number ∧ Quantity.Denotes (.value (.text text)) number) ∧
      FixedNotation text ∧ encodeDecimal memory (.value (.text text)) = .ok text := by
  obtain ⟨negative, coefficient, exponent, given, expressible, rfl⟩ :=
    encodeDecimal_eq_ok_iff.mp encoded
  refine ⟨?_, Decimal.fixedNotation_printPlain negative coefficient exponent, ?_⟩
  · exact ⟨_, ⟨_, given, rfl⟩, expressible.denotes⟩
  · obtain ⟨value, level, read, same, again⟩ := expressible.toDecimal_printPlain
    rw [encodeDecimal_eq_ok_iff]
    exact ⟨negative, value, level, read, again, Decimal.printPlain_congr negative same⟩

/-- Blanks, zeros at both ends and an exponent are not kept. -/
theorem encoded_blank_canonical :
    encodeDecimal .usual (.value (.text " 0012.50e-1 ")) = .ok "1.25" ∧
      (∃ number, Quantity.Denotes (.value (.text " 0012.50e-1 ")) number ∧
        Quantity.Denotes (.value (.text "1.25")) number) ∧
      FixedNotation "1.25" ∧ encodeDecimal .usual (.value (.text "1.25")) = .ok "1.25" := by
  have encoded : encodeDecimal .usual (.value (.text " 0012.50e-1 ")) = .ok "1.25" := by
    decide +kernel
  exact ⟨encoded, encoded_canonical encoded⟩

private theorem units_of_accepted (memory : Memory) {account given : String}
    (accepted : Schema.Kind.decimal.check account (.text given) = .ok none) :
    ∃ coefficient exponent, ∃ units : Nat,
      Quantity.toDecimal (.value (.text given)) = .ok (.finite false coefficient exponent) ∧
        Expressible memory false coefficient exponent ∧
        Decimal.magnitude coefficient exponent * 10 ^ places = units ∧ units ≤ roundedLimit := by
  obtain ⟨amount, shown, within⟩ := (Schema.Kind.check_decimal_eq_none_iff account).mp accepted
  have same := amount.read?_of_shows shown
  rcases amount.read?_cases with ⟨_, large⟩ | read
  · have beyond : 10 ^ 40 ≤ amount.units := large 40 (by decide)
    unfold roundedLimit at within
    omega
  · refine ⟨amount.coefficient, -(amount.fraction.length : Int), amount.units, ?_,
      amount.expressible memory within, amount.magnitude_units, within⟩
    rw [Quantity.toDecimal, same, read]

/-- Every accepted text is encoded, as a text that is accepted too and has the same number. Two
accepted texts are encoded alike just if they have the same number. -/
theorem accepted_amounts_canonical (memory : Memory) {account given other : String}
    (accepted : Schema.Kind.decimal.check account (.text given) = .ok none)
    (acceptedToo : Schema.Kind.decimal.check account (.text other) = .ok none) :
    ∃ text number otherText otherNumber,
      encodeDecimal memory (.value (.text given)) = .ok text ∧
        Schema.Kind.decimal.check account (.text text) = .ok none ∧
        Quantity.Denotes (.value (.text given)) number ∧
        Quantity.Denotes (.value (.text text)) number ∧
        encodeDecimal memory (.value (.text other)) = .ok otherText ∧
        Quantity.Denotes (.value (.text other)) otherNumber ∧
        (text = otherText ↔ number = otherNumber) := by
  obtain ⟨coefficient, exponent, units, read, expressible, whole, within⟩ :=
    units_of_accepted memory accepted
  obtain ⟨coefficientToo, level, _, readToo, expressibleToo, _⟩ :=
    units_of_accepted memory acceptedToo
  refine ⟨Decimal.printPlain false coefficient exponent, Decimal.magnitude coefficient exponent,
    Decimal.printPlain false coefficientToo level, Decimal.magnitude coefficientToo level,
    ?_, ?_, ⟨_, read, rfl⟩, expressible.denotes, ?_, ⟨_, readToo, rfl⟩, ?_⟩
  · exact encodeDecimal_eq_ok_iff.mpr ⟨false, coefficient, exponent, read, expressible, rfl⟩
  · exact check_printPlain_of_units account whole within
  · exact encodeDecimal_eq_ok_iff.mpr ⟨false, coefficientToo, level, readToo, expressibleToo, rfl⟩
  · constructor
    · intro same
      have denoted := expressibleToo.denotes
      rw [← same] at denoted
      exact expressible.denotes.unique denoted
    · exact Decimal.printPlain_congr false

/-- Zeros at both ends and a line feed do not matter. -/
theorem paddedAmounts_denote_same :
    Schema.Kind.decimal.check "terra" (.text "007.50") = .ok none ∧
      Schema.Kind.decimal.check "terra" (.text "7.5\n") = .ok none ∧
      encodeDecimal .usual (.value (.text "007.50")) = .ok "7.5" ∧
      encodeDecimal .usual (.value (.text "7.5\n")) = .ok "7.5" ∧
      ∃ number, Quantity.Denotes (.value (.text "007.50")) number ∧
        Quantity.Denotes (.value (.text "7.5\n")) number := by
  have accepted : Schema.Kind.decimal.check "terra" (.text "007.50") = .ok none := by
    decide +kernel
  have acceptedToo : Schema.Kind.decimal.check "terra" (.text "7.5\n") = .ok none := by
    decide +kernel
  have shown : encodeDecimal .usual (.value (.text "007.50")) = .ok "7.5" := by decide +kernel
  have shownToo : encodeDecimal .usual (.value (.text "7.5\n")) = .ok "7.5" := by decide +kernel
  obtain ⟨text, number, otherText, otherNumber, encoded, _, denoted, _, encodedToo, denotedToo,
    unique⟩ := accepted_amounts_canonical .usual accepted acceptedToo
  rw [shown] at encoded
  rw [shownToo] at encodedToo
  cases encoded
  cases encodedToo
  rw [← unique.mp rfl] at denotedToo
  exact ⟨accepted, acceptedToo, shown, shownToo, number, denoted, denotedToo⟩

end Rollout.Wire
