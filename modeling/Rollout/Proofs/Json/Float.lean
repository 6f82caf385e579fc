import Rollout.Proofs.Json.Integer
import Rollout.Proofs.Number.Shortest

/-!
# Floating-point numbers in documents

Whatever a floating-point number is written as is read as one: a finite number has a fraction or an
exponent, and the others have names of their own.
-/

set_option autoImplicit false

namespace Rollout

namespace Json

open Rollout.Number
open Rollout.Number.Decimal (withSign)

/-!
## Fractions and exponents
-/

/-- Digits behind a point, if there are any. -/
inductive Fractional : List Char → Prop where
  | whole : Fractional []
  | digits {text : List Char} :
      text ≠ [] → (∀ char ∈ text, char.isDigit = true) → Fractional ('.' :: text)

/-- An exponent with its sign, if there is one. -/
inductive Exponential : List Char → Prop where
  | plain : Exponential []
  | scaled {sign : Char} {text : List Char} :
      sign = '-' ∨ sign = '+' → text ≠ [] → (∀ char ∈ text, char.isDigit = true) →
      Exponential ('e' :: sign :: text)

/-- A numeral that is not one of an integer. -/
inductive Fractured : List Char → Prop where
  | intro {whole fraction exponent : List Char} :
      Leading whole → Fractional fraction → Exponential exponent →
      fraction ≠ [] ∨ exponent ≠ [] → Fractured (whole ++ (fraction ++ exponent))

private theorem Fractional.reads {fraction : List Char} (fractional : Fractional fraction) :
    ∃ values : List Nat, (values = [] → fraction = []) ∧
      ∀ rest, Stops rest → rest.head? ≠ some '.' →
        readFraction (fraction ++ rest) = (values, rest) := by
  cases fractional with
  | whole =>
      refine ⟨[], fun _ => rfl, fun rest _ pointless => ?_⟩
      rw [List.nil_append, readFraction]
      rintro others rfl
      exact pointless rfl
  | @digits text nonempty digits =>
      have valued : text.map Text.asciiDigit ≠ [] := mt List.map_eq_nil_iff.mp nonempty
      refine ⟨text.map Text.asciiDigit, fun none => absurd none valued, fun rest stops _ => ?_⟩
      rw [List.cons_append, readFraction, spanAscii_append digits stops]
      split
      · next none => exact absurd (Prod.mk.inj none).1 valued
      · rfl

private theorem Exponential.reads {exponent : List Char} (exponential : Exponential exponent) :
    ∃ value : Option Int, (value = none → exponent = []) ∧
      ∀ rest, Closed rest → readExponent (exponent ++ rest) = (value, rest) := by
  cases exponential with
  | plain => exact ⟨none, fun _ => rfl, fun rest closed => readExponent_closed closed⟩
  | @scaled sign text marked nonempty digits =>
      have valued : text.map Text.asciiDigit ≠ [] := mt List.map_eq_nil_iff.mp nonempty
      obtain ⟨negative, split⟩ :
          ∃ negative, ∀ others, splitSign (sign :: others) = (negative, others) := by
        obtain rfl | rfl := marked
        · exact ⟨true, fun _ => rfl⟩
        · exact ⟨false, fun _ => rfl⟩
      refine ⟨some (signed negative (ofDigits (text.map Text.asciiDigit))), ?_, ?_⟩
      · intro none
        cases none
      · intro rest closed
        simp [readExponent, split, spanAscii_append digits closed.stops]

/-- What follows a fraction goes on neither with a digit nor with a point. -/
theorem Exponential.front {exponent rest : List Char} (exponential : Exponential exponent)
    (closed : Closed rest) :
    Stops (exponent ++ rest) ∧ (exponent ++ rest).head? ≠ some '.' := by
  cases exponential with
  | plain => exact ⟨closed.stops, fun point => (closed _ point).2.1 rfl⟩
  | scaled => simp [Stops]

private theorem Fractional.stops {fraction behind : List Char} (fractional : Fractional fraction)
    (stops : Stops behind) : Stops (fraction ++ behind) := by
  cases fractional with
  | whole => exact stops
  | digits => simp [Stops]

private theorem Fractured.reads {text : List Char} (fractured : Fractured text) (negative : Bool) :
    ∃ value, ∀ rest, Closed rest →
      readNumber (withSign negative text ++ rest) = .ok (.float value, rest) := by
  obtain ⟨leading, fractional, exponential, some⟩ := fractured
  rename_i whole fraction exponent
  obtain ⟨values, valued, fractionRead⟩ := fractional.reads
  obtain ⟨power, powered, exponentRead⟩ := exponential.reads
  refine ⟨Binary64.ofScaled negative (ofDigits (whole.map Text.asciiDigit ++ values))
    (power.getD 0 - values.length), fun rest closed => ?_⟩
  obtain ⟨stops, pointless⟩ := exponential.front closed
  have divided : withSign negative (whole ++ (fraction ++ exponent)) ++ rest =
      withSign negative whole ++ (fraction ++ (exponent ++ rest)) := by
    cases negative <;> simp [withSign]
  have uneven : (values.isEmpty && power.isNone) = false := by
    rw [Bool.and_eq_false_iff, List.isEmpty_eq_false_iff, Option.isNone_eq_false_iff,
      Option.isSome_iff_ne_none]
    exact some.imp (mt valued) (mt powered)
  rw [divided, leading.readNumber_append (fractional.stops stops), fractionRead _ stops pointless]
  simp [exponentRead rest closed, uneven]

/-!
## Shortest texts
-/

section

variable {text : List Char} (leading : Leading text) (nonzero : text.head? ≠ some '0')
include leading

private theorem Leading.take {count : Nat} (some : 0 < count) : Leading (text.take count) where
  nonempty := by
    have length := List.length_pos_iff.mpr leading.nonempty
    apply List.ne_nil_of_length_pos
    rw [List.length_take]
    omega
  digits := fun char member => leading.digits char (List.mem_of_mem_take member)
  zero := by
    intro rest front
    cases text with
    | nil => simp at front
    | cons first others =>
        obtain ⟨count, rfl⟩ := Nat.exists_eq_succ_of_ne_zero (Nat.ne_of_gt some)
        obtain ⟨rfl, same⟩ := List.cons.inj front
        rw [← same, leading.zero others rfl, List.take_nil]

include nonzero

private theorem Leading.append_zeros (count : Nat) : Leading (text ++ zeros count) where
  nonempty := List.append_ne_nil_of_left_ne_nil leading.nonempty _
  digits := by
    intro char member
    rcases List.mem_append.mp member with here | there
    · exact leading.digits char here
    · rw [List.eq_of_mem_replicate there]
      rfl
  zero := by
    intro rest front
    cases text with
    | nil => exact absurd rfl leading.nonempty
    | cons first others =>
        obtain ⟨rfl, _⟩ := List.cons.inj front
        exact absurd rfl nonzero

private theorem fractured_positional (point : Int) :
    Fractured (Binary64.positional text point) := by
  unfold Binary64.positional
  -- the point stands before the digits, behind them or among them
  split
  · have zero : Leading ['0'] := leading_toDigits 0
    have digits : ∀ char ∈ zeros (-point).toNat ++ text, char.isDigit = true := by
      intro char member
      rcases List.mem_append.mp member with front | behind
      · rw [List.eq_of_mem_replicate front]
        rfl
      · exact leading.digits char behind
    have shown := Fractured.intro zero
      (.digits (List.append_ne_nil_of_right_ne_nil _ leading.nonempty) digits) .plain
      (.inl (List.cons_ne_nil _ _))
    simpa using shown
  · split
    · have shown := Fractured.intro (leading.append_zeros nonzero (point.toNat - text.length))
        (.digits (List.cons_ne_nil '0' []) (by simp)) .plain (.inl (List.cons_ne_nil _ _))
      simpa using shown
    · next positive short =>
        have digits : ∀ char ∈ text.drop point.toNat, char.isDigit = true :=
          fun char member => leading.digits char (List.mem_of_mem_drop member)
        have some : text.drop point.toNat ≠ [] := by
          rw [ne_eq, List.drop_eq_nil_iff]
          exact short
        have before : 0 < point.toNat := by omega
        have shown := Fractured.intro (leading.take before) (.digits some digits) .plain
          (.inl (List.cons_ne_nil _ _))
        simpa using shown

omit nonzero in
private theorem fractured_scientific (exponent : Int) :
    Fractured (Binary64.scientific text exponent) := by
  have marked : Exponential ('e' :: (if exponent < 0 then '-' else '+') ::
      padded 2 exponent.natAbs) := by
    refine .scaled ?_ ?_ fun char member => isDigit_of_mem_padded member
    · split
      · exact .inl rfl
      · exact .inr rfl
    · have wide := le_length_padded 2 exponent.natAbs
      exact List.ne_nil_of_length_pos (by omega)
  have fractional : Fractional (if text.length > 1 then '.' :: text.drop 1 else []) := by
    split
    · next more =>
        refine .digits ?_ fun char member => leading.digits char (List.mem_of_mem_drop member)
        rw [ne_eq, List.drop_eq_nil_iff]
        omega
    · exact .whole
  have shown := Fractured.intro (leading.take Nat.one_pos) fractional marked
    (.inr (List.cons_ne_nil _ _))
  rw [← List.append_assoc] at shown
  exact shown

end

private theorem head_digits_ne_zero {value : Nat} (nonzero : value ≠ 0) :
    (digits value).head? ≠ some '0' := by
  intro front
  obtain ⟨rest, shape⟩ := List.head?_eq_some_iff.mp front
  exact nonzero (toDigits_eq_zero_cons shape)

theorem writeFloat_finite (negative : Bool) (significand : Nat) (exponent : Int) :
    ∃ text, Fractured text ∧
      writeFloat (.finite negative significand exponent) = withSign negative text := by
  refine ⟨_, ?_, String.toList_ofList⟩
  split
  · have zero : Leading ['0'] := leading_toDigits 0
    exact .intro zero (.digits (List.cons_ne_nil '0' []) (by simp)) .plain
      (.inl (List.cons_ne_nil _ _))
  · next nonzero =>
      have decimal := Binary64.shortest_ne_zero nonzero exponent
      generalize Binary64.shortest significand exponent = shortest at decimal ⊢
      obtain ⟨coefficient, unit⟩ := shortest
      have leading : Leading (digits coefficient) := leading_toDigits coefficient
      dsimp only
      split
      · exact fractured_positional leading (head_digits_ne_zero decimal) _
      · exact fractured_scientific leading _

/-- A floating-point number is read back as one, the same wherever it stands. -/
theorem readPlain_writeFloat (value : Binary64) :
    ∃ found, ∀ rest, Closed rest →
      readPlain (writeFloat value ++ rest) = .ok (.float found, rest) := by
  cases value with
  | nan => exact ⟨.nan, fun _ _ => rfl⟩
  | infinite negative =>
      refine ⟨.infinite negative, fun _ _ => ?_⟩
      cases negative <;> rfl
  | finite negative significand exponent =>
      obtain ⟨text, fractured, shape⟩ := writeFloat_finite negative significand exponent
      obtain ⟨found, reads⟩ := fractured.reads negative
      refine ⟨found, fun rest closed => ?_⟩
      rw [shape, Numeric.readPlain_append, reads rest closed]
      obtain ⟨leading⟩ := fractured
      exact leading.numeric _ negative

end Json

end Rollout
