import Rollout.Value

/-!
# Parts of values

A property that every scalar in a value has. It is passed on to the fields of objects and kept
where a field is set.
-/

set_option autoImplicit false

namespace Rollout

namespace Value

mutual

/-- Every scalar in a value has a property. -/
def Holds (property : Scalar → Prop) : Value → Prop
  | .scalar value => property value
  | .list items => ItemsHold property items
  | .object fields => FieldsHold property fields
termination_by structural value => value

def ItemsHold (property : Scalar → Prop) : List Value → Prop
  | [] => True
  | item :: rest => Holds property item ∧ ItemsHold property rest
termination_by structural items => items

def FieldsHold (property : Scalar → Prop) : List (String × Value) → Prop
  | [] => True
  | (_, value) :: rest => Holds property value ∧ FieldsHold property rest
termination_by structural fields => fields

end

mutual

theorem Holds.imp {property other : Scalar → Prop}
    (weaker : ∀ scalar, property scalar → other scalar) :
    ∀ {value : Value}, value.Holds property → value.Holds other
  | .scalar here, holds => weaker here holds
  | .list _, every => ItemsHold.imp weaker every
  | .object _, every => FieldsHold.imp weaker every

theorem ItemsHold.imp {property other : Scalar → Prop}
    (weaker : ∀ scalar, property scalar → other scalar) :
    ∀ {items : List Value}, ItemsHold property items → ItemsHold other items
  | [], _ => trivial
  | _ :: _, ⟨here, others⟩ => ⟨Holds.imp weaker here, ItemsHold.imp weaker others⟩

theorem FieldsHold.imp {property other : Scalar → Prop}
    (weaker : ∀ scalar, property scalar → other scalar) :
    ∀ {fields : List (String × Value)}, FieldsHold property fields → FieldsHold other fields
  | [], _ => trivial
  | _ :: _, ⟨here, others⟩ => ⟨Holds.imp weaker here, FieldsHold.imp weaker others⟩

end

variable {property : Scalar → Prop} {value : Value} {fields : List (String × Value)}

theorem itemsHold_iff {items : List Value} :
    ItemsHold property items ↔ ∀ item ∈ items, item.Holds property := by
  induction items with
  | nil => exact iff_of_true trivial (List.forall_mem_nil _)
  | cons item rest ih => rw [ItemsHold, ih, List.forall_mem_cons]

theorem fieldsHold_iff :
    FieldsHold property fields ↔ ∀ field ∈ fields, field.2.Holds property := by
  induction fields with
  | nil => exact iff_of_true trivial (List.forall_mem_nil _)
  | cons field rest ih => rw [FieldsHold, ih, List.forall_mem_cons]

theorem itemsHold_append {items : List Value} (earlier : ItemsHold property items)
    (last : value.Holds property) : ItemsHold property (items ++ [value]) := by
  induction items with
  | nil => exact ⟨last, trivial⟩
  | cons item rest ih =>
      obtain ⟨here, others⟩ := earlier
      exact ⟨here, ih others⟩

theorem fieldsHold_setField (key : String) (earlier : FieldsHold property fields)
    (here : value.Holds property) : FieldsHold property (setField key value fields) := by
  induction fields with
  | nil => exact ⟨here, trivial⟩
  | cons field rest ih =>
      obtain ⟨old, others⟩ := earlier
      rw [setField]
      split
      · exact ⟨here, others⟩
      · exact ⟨old, ih others⟩

theorem holds_of_lookup {key : String} (every : FieldsHold property fields)
    (found : fields.lookup key = some value) : value.Holds property := by
  induction fields with
  | nil => cases found
  | cons field rest ih =>
      obtain ⟨here, others⟩ := every
      rw [List.lookup_cons] at found
      split at found
      · cases found
        exact here
      · exact ih others found

theorem holds_fieldOrNull {key : String} (null : property .null)
    (every : FieldsHold property fields) : (fieldOrNull fields key).Holds property := by
  unfold fieldOrNull field
  cases found : fields.lookup key with
  | none => exact null
  | some value => exact holds_of_lookup every found

theorem fieldsHold_of_field {key : String} {inner : List (String × Value)}
    (every : FieldsHold property fields)
    (given : field fields key (.object []) = .object inner) : FieldsHold property inner := by
  unfold field at given
  cases found : fields.lookup key with
  | none =>
      rw [found] at given
      cases given
      trivial
  | some value =>
      rw [found] at given
      cases given
      exact holds_of_lookup every found

end Value

end Rollout
