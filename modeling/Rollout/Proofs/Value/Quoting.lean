import Rollout.Proofs.Number.Decimal
import Rollout.Proofs.Value.Parts
import Rollout.Value.Quoting

/-!
# Values that can be quoted

A value can be quoted if its integers have at most 4300 digits, as many as are written or read.
-/

set_option autoImplicit false

namespace Rollout

open Rollout.Number

theorem Number.isWritable_iff {number : Int} :
    isWritable number = true ↔ number.natAbs < 10 ^ digitLimit := by
  rw [isWritable, decide_eq_true_iff, digitCount_le_iff (by decide)]

theorem Number.oneDigit_bounded {number : Nat} (small : number < 10) : number < 10 ^ digitLimit :=
  Nat.lt_of_lt_of_le small (Nat.le_self_pow (by decide) 10)

/-- A scalar that is no integer with more than 4300 digits. -/
def Scalar.Quotable : Scalar → Prop
  | .int value => value.natAbs < 10 ^ digitLimit
  | _ => True

theorem Scalar.isQuotable_iff {scalar : Scalar} : scalar.isQuotable = true ↔ scalar.Quotable := by
  cases scalar with
  | int => exact isWritable_iff
  | null | bool | float | text => exact iff_of_true rfl trivial

namespace Value

/-- A value whose integers have at most 4300 digits. -/
def Quotable (value : Value) : Prop :=
  value.Holds Scalar.Quotable

mutual

theorem isQuotable_iff : ∀ {value : Value}, value.isQuotable = true ↔ value.Quotable
  | .scalar _ => Scalar.isQuotable_iff
  | .list _ => itemsQuotable_iff
  | .object _ => fieldsQuotable_iff

theorem itemsQuotable_iff :
    ∀ {items : List Value}, itemsQuotable items = true ↔ ItemsHold Scalar.Quotable items
  | [] => iff_of_true rfl trivial
  | _ :: _ => by
      rw [itemsQuotable, Bool.and_eq_true, isQuotable_iff, itemsQuotable_iff, Quotable, ItemsHold]

theorem fieldsQuotable_iff :
    ∀ {fields : List (String × Value)},
      fieldsQuotable fields = true ↔ FieldsHold Scalar.Quotable fields
  | [] => iff_of_true rfl trivial
  | (_, _) :: _ => by
      rw [fieldsQuotable, Bool.and_eq_true, isQuotable_iff, fieldsQuotable_iff, Quotable, FieldsHold]

end

variable {value : Value}

theorem quote_of_quotable (quotable : value.Quotable) : value.quote = .ok value.literal :=
  if_pos (isQuotable_iff.mpr quotable)

theorem quote_of_not_quotable (long : ¬ value.Quotable) : value.quote = .error .unwritable :=
  if_neg (mt isQuotable_iff.mp long)

end Value

end Rollout
