import Mathlib.Data.List.TakeWhile
import Rollout.Proofs.Json.Reading
import Rollout.Proofs.Number.Binary64
import Rollout.Proofs.Number.Numeral
import Rollout.Proofs.Value.Quoting
import Rollout.Value.Integer

/-!
# Lengths of integers

Readers take no numeral with more than 4300 digits. So what a document gives for an integer, be it
written as one, as a text, as a truth value or with a fraction, has no more digits than that.
-/

set_option autoImplicit false

namespace Rollout

namespace Text

private theorem digit?_lt {char : Char} {value : Nat} (found : digit? char = some value) :
    value < 10 := by
  obtain ⟨first, zero, rfl⟩ := Option.map_eq_some_iff.mp found
  have within := List.find?_some zero
  simp only [Bool.and_eq_true, decide_eq_true_eq] at within
  omega

private theorem asciiDigit_lt {char : Char} (digit : char.isDigit = true) : asciiDigit char < 10 :=
  digit?_lt (digit?_of_isDigit digit)

end Text

namespace Number

open Rollout.Text

private theorem ofDigits_lt {values : List Nat} (small : ∀ value ∈ values, value < 10) :
    ofDigits values < 10 ^ values.length := by
  have grown : ∀ total : Nat,
      values.foldl (fun total value => 10 * total + value) total <
        (total + 1) * 10 ^ values.length := by
    induction values with
    | nil => simp
    | cons value rest ih =>
        intro total
        have first : value < 10 := small value List.mem_cons_self
        have others := ih (fun other member => small other (List.mem_cons_of_mem _ member))
          (10 * total + value)
        calc List.foldl _ (10 * total + value) rest
            < (10 * total + value + 1) * 10 ^ rest.length := others
          _ ≤ ((total + 1) * 10) * 10 ^ rest.length := Nat.mul_le_mul_right _ (by omega)
          _ = (total + 1) * 10 ^ (rest.length + 1) := by rw [Nat.mul_assoc, ← Nat.pow_succ']
  simpa [ofDigits] using grown 0

private theorem natAbs_signed (negative : Bool) (magnitude : Nat) :
    (signed negative magnitude).natAbs = magnitude := by
  cases negative <;> simp [signed]

private theorem natAbs_signed_ofDigits_lt {negative : Bool} {values : List Nat}
    (small : ∀ value ∈ values, value < 10) (short : ¬ values.length > digitLimit) :
    (signed negative (ofDigits values)).natAbs < 10 ^ digitLimit := by
  rw [natAbs_signed]
  exact Nat.lt_of_lt_of_le (ofDigits_lt small)
    (Nat.pow_le_pow_right (by decide) (Nat.le_of_not_gt short))

private theorem digitRun_lt (afterDigit : Bool) {text rest : List Char} {values : List Nat}
    (run : digitRun afterDigit text = some (values, rest)) : ∀ value ∈ values, value < 10 := by
  induction text generalizing afterDigit values with
  | nil =>
      rw [digitRun] at run
      split at run
      · cases run
        simp
      · cases run
  | cons char others ih =>
      rw [digitRun] at run
      split at run
      · split at run
        · exact ih false run
        · cases run
      · split at run
        · next digit read =>
            obtain ⟨⟨behind, left⟩, further, same⟩ := Option.map_eq_some_iff.mp run
            cases same
            intro value member
            rcases List.mem_cons.mp member with rfl | later
            · exact digit?_lt read
            · exact ih true further value later
        · split at run
          · cases run
            simp
          · cases run

private theorem readInt_lt {text : String} {number : Int} (read : readInt text = .ok number) :
    number.natAbs < 10 ^ digitLimit := by
  unfold readInt at read
  dsimp only at read
  split at read
  · cases read
  · next values rest run =>
      split at read
      · cases read
      · next short =>
          split at read
          · cases read
            exact natAbs_signed_ofDigits_lt (digitRun_lt false run) short
          · cases read

end Number

open Rollout.Number

/-- A scalar that is taken for an integer of at most 4300 digits, if for any. -/
def Scalar.Short (scalar : Scalar) : Prop :=
  ∀ number, (Value.scalar scalar).toInteger = .ok number → number.natAbs < 10 ^ digitLimit

namespace Scalar

private theorem short_text (text : String) : (Scalar.text text).Short := by
  intro number taken
  exact readInt_lt (Computation.mapError_eq_ok.mp taken)

private theorem short_bool (value : Bool) : (Scalar.bool value).Short := by
  intro number taken
  cases taken
  have one : 1 < 10 ^ digitLimit := Nat.one_lt_pow (by decide) (by decide)
  cases value
  · exact Nat.lt_trans Nat.zero_lt_one one
  · exact one

theorem short_null : Scalar.null.Short := by
  intro number taken
  cases taken

private theorem short_float {value : Binary64}
    (small : ∀ whole, value.truncate? = some whole → whole.natAbs < 10 ^ digitLimit) :
    (Scalar.float value).Short := by
  intro number taken
  simp only [Value.toInteger] at taken
  split at taken
  · cases taken
  · split at taken
    · next whole found =>
        cases taken
        exact small _ found
    · cases taken

theorem Short.quotable {scalar : Scalar} (short : scalar.Short) : scalar.Quotable := by
  cases scalar with
  | int value => exact short value rfl
  | null | bool | float | text => trivial

end Scalar

namespace Json

open Rollout.Text

private theorem spanAscii_lt (text : List Char) : ∀ value ∈ (spanAscii text).1, value < 10 := by
  intro value member
  obtain ⟨char, taken, rfl⟩ := List.mem_map.mp member
  exact asciiDigit_lt (List.mem_takeWhile_imp taken)

private theorem readWhole_lt (text : List Char) : ∀ value ∈ (readWhole text).1, value < 10 := by
  unfold readWhole
  split
  · simp
  · exact spanAscii_lt text

private theorem short_of_readNumber {text rest : List Char} {scalar : Scalar}
    (read : readNumber text = .ok (scalar, rest)) : scalar.Short := by
  unfold readNumber at read
  dsimp only at read
  split at read
  · cases read
  · next whole behind nonempty found =>
      have small : ∀ value ∈ whole, value < 10 := by
        intro value member
        apply readWhole_lt _ value
        rw [found]
        exact member
      split at read
      · split at read
        · cases read
        · next short =>
            cases read
            intro number taken
            cases taken
            exact natAbs_signed_ofDigits_lt small short
      · cases read
        exact Scalar.short_float fun whole taken => Binary64.truncate?_ofScaled_lt taken

private theorem short_of_readPlain {text rest : List Char} {scalar : Scalar}
    (read : readPlain text = .ok (scalar, rest)) : scalar.Short := by
  unfold readPlain at read
  split at read
  · next word found named =>
      cases read
      have listed := List.mem_of_find?_eq_some named
      simp only [words, List.mem_cons, List.not_mem_nil, or_false, Prod.mk.injEq] at listed
      rcases listed with ⟨_, rfl⟩ | ⟨_, rfl⟩ | ⟨_, rfl⟩ | ⟨_, rfl⟩ | ⟨_, rfl⟩ | ⟨_, rfl⟩
      · exact Scalar.short_null
      · exact Scalar.short_bool true
      · exact Scalar.short_bool false
      · exact Scalar.short_float fun whole taken => nomatch taken
      · exact Scalar.short_float fun whole taken => nomatch taken
      · exact Scalar.short_float fun whole taken => nomatch taken
  · exact short_of_readNumber read

/-- The integers that a document gives are short. -/
theorem short_of_read {document : String} {value : Value} (found : read document = .ok value) :
    value.Holds Scalar.Short :=
  holds_of_read Scalar.short_text (fun _ _ _ => short_of_readPlain) found

theorem quotable_of_read {document : String} {value : Value} (found : read document = .ok value) :
    value.Quotable :=
  (short_of_read found).imp fun _ => Scalar.Short.quotable

end Json

end Rollout
