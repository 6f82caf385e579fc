import Rollout.Proofs.Value.Quoting
import Rollout.Schema.FieldType

/-!
# Refusals

What has not the form of a kind or of a type is refused by quoting it, so it is neither accepted nor
refused where it cannot be quoted.
-/

set_option autoImplicit false

namespace Rollout.Schema

open Rollout.Number

variable {value : Value}

section

variable {violation : String → Violation} {path : String}

theorem refuseForm_of_quotable (quotable : value.Quotable) :
    refuseForm violation path value = .ok [⟨path, violation value.literal⟩] := by
  simp only [refuseForm, Value.quote_of_quotable quotable]
  rfl

theorem refuseForm_of_not_quotable (long : ¬ value.Quotable) :
    refuseForm violation path value = .error (.number .unwritable) := by
  simp only [refuseForm, Value.quote_of_not_quotable long]
  rfl

theorem refuseForm_ne_nil : refuseForm violation path value ≠ .ok [] := by
  by_cases quotable : value.Quotable
  · simp [refuseForm_of_quotable quotable]
  · simp [refuseForm_of_not_quotable quotable]

theorem quotable_of_refuseForm {problems : List Problem}
    (refused : refuseForm violation path value = .ok problems) : value.Quotable := by
  by_contra long
  rw [refuseForm_of_not_quotable long] at refused
  cases refused

end

namespace Kind

variable {kind : Kind} {account : String}

private theorem refuse_of_quotable (quotable : value.Quotable) :
    kind.refuse account value = .ok (some (kind.formMismatch account value.literal)) := by
  simp only [refuse, Value.quote_of_quotable quotable]
  rfl

private theorem refuse_of_not_quotable (long : ¬ value.Quotable) :
    kind.refuse account value = .error (.number .unwritable) := by
  simp only [refuse, Value.quote_of_not_quotable long]
  rfl

theorem refuse_ne_none : kind.refuse account value ≠ .ok none := by
  by_cases quotable : value.Quotable
  · simp [refuse_of_quotable quotable]
  · simp [refuse_of_not_quotable quotable]

private theorem limit_lt (kind : Kind) : kind.limit < 10 ^ digitLimit := by
  have bound : kind.limit < 10 ^ 39 := by cases kind <;> decide
  exact Nat.lt_trans bound (Nat.pow_lt_pow_right (by decide) (by decide))

private theorem quotable_of_le_limit {number : Int} (within : 0 ≤ number ∧ number ≤ kind.limit) :
    Value.Quotable (.int number) := by
  have bounded : number.natAbs ≤ kind.limit := by omega
  exact Nat.lt_of_le_of_lt bounded kind.limit_lt

private theorem refuse_eq_ok_iff :
    (∃ verdict, kind.refuse account value = .ok verdict) ↔ value.Quotable := by
  by_cases quotable : value.Quotable
  · exact iff_of_true ⟨_, refuse_of_quotable quotable⟩ quotable
  · refine iff_of_false ?_ quotable
    rintro ⟨verdict, refused⟩
    rw [refuse_of_not_quotable quotable] at refused
    cases refused

/-- The integers that a kind accepts are short, so the others are refused by their size. -/
private theorem check_int_eq_ok_iff (number : Int) :
    (∃ verdict, kind.check account (.int number) = .ok verdict) ↔
      Value.Quotable (.int number) := by
  cases kind with
  | address | validatorAddress | uint128 | uint64 | decimal | binary | timestamp | text | bool =>
      exact refuse_eq_ok_iff
  | u8 | u32 | u64 =>
      by_cases quotable : Value.Quotable (.int number)
      · refine iff_of_true ?_ quotable
        simp only [check, Value.quote_of_quotable quotable]
        split
        · exact ⟨_, rfl⟩
        · exact ⟨_, rfl⟩
      · refine iff_of_false ?_ quotable
        rintro ⟨verdict, judged⟩
        simp only [check, Value.quote_of_not_quotable quotable] at judged
        split at judged
        · next within => exact quotable (quotable_of_le_limit within)
        · cases judged

/-- A value that is no text gets a verdict just if it can be quoted. -/
theorem check_eq_ok_iff_of_not_text (plain : ∀ given, value ≠ .text given) :
    (∃ verdict, kind.check account value = .ok verdict) ↔ value.Quotable := by
  cases value with
  | list | object => exact refuse_eq_ok_iff
  | scalar value =>
      cases value with
      | text given => exact absurd rfl (plain given)
      | int number => exact check_int_eq_ok_iff number
      | null | float => exact refuse_eq_ok_iff
      | bool =>
          cases kind with
          | bool => exact iff_of_true ⟨none, rfl⟩ trivial
          | address | validatorAddress | uint128 | uint64 | decimal | binary | timestamp | text
          | u8 | u32 | u64 => exact refuse_eq_ok_iff

end Kind

end Rollout.Schema
