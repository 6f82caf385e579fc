import Rollout.Proofs.Computation
import Rollout.Proofs.Registry.Growth

/-!
# Filled templates

What a template becomes once its markers are replaced, told by rules and not by a function:
references give way to what records say, placeholders to an address, and nothing else changes
but that tuples become lists. Resolution finds the filled template exactly where there is one.
-/

set_option autoImplicit false

namespace Rollout

namespace Template

open Rollout.Computation

variable {records : List Record} {stand : Option String}

mutual

/-- A value is a template with every reference replaced by what the record of its contract says,
and every placeholder by the address that stands for it. -/
inductive Fills (records : List Record) (stand : Option String) : Template → Value → Prop where
  | scalar {value : Scalar} : Fills records stand (.scalar value) (.scalar value)
  | list {items : List Template} {values : List Value} :
      FillsItems records stand items values → Fills records stand (.list items) (.list values)
  | tuple {items : List Template} {values : List Value} :
      FillsItems records stand items values → Fills records stand (.tuple items) (.list values)
  | object {fields : List (String × Template)} {values : List (String × Value)} :
      FillsFields records stand fields values →
      Fills records stand (.object fields) (.object values)
  | reference {found : Reference} {record : Record} :
      record ∈ records → record.name = .text found.name →
      Fills records stand (.reference found) (record.get found.asks)
  | placeholder {address : String} :
      stand = some address → Fills records stand .placeholder (.text address)

inductive FillsItems (records : List Record) (stand : Option String) :
    List Template → List Value → Prop where
  | nil : FillsItems records stand [] []
  | cons {item : Template} {value : Value} {items : List Template} {values : List Value} :
      Fills records stand item value → FillsItems records stand items values →
      FillsItems records stand (item :: items) (value :: values)

inductive FillsFields (records : List Record) (stand : Option String) :
    List (String × Template) → List (String × Value) → Prop where
  | nil : FillsFields records stand [] []
  | cons {key : String} {template : Template} {value : Value}
      {fields : List (String × Template)} {values : List (String × Value)} :
      Fills records stand template value → FillsFields records stand fields values →
      FillsFields records stand ((key, template) :: fields) ((key, value) :: values)

end

private theorem lookUp_fills {registry : Registry} {found : Reference} {value : Value}
    (known : registry.lookUp found = some value) :
    Fills registry.records stand (.reference found) value := by
  obtain ⟨record, present, rfl⟩ := Option.map_eq_some_iff.mp known
  obtain ⟨member, same⟩ := Registry.find?_eq_some_iff.mp present
  exact .reference member (Scalar.key_eq_text_iff.mp same)

mutual

/-- A resolved template is filled. -/
theorem fills_of_resolve (registry : Registry) :
    ∀ (template : Template) (value : Value),
      template.resolve registry.lookUp stand = .ok value →
      Fills registry.records stand template value
  | .scalar _, value, resolved => by
      cases resolved
      exact .scalar
  | .list items, value, resolved => by
      obtain ⟨values, itemsResolved, rfl⟩ := map_eq_ok resolved
      exact .list (fillsItems_of_resolve registry items values itemsResolved)
  | .tuple items, value, resolved => by
      obtain ⟨values, itemsResolved, rfl⟩ := map_eq_ok resolved
      exact .tuple (fillsItems_of_resolve registry items values itemsResolved)
  | .object fields, value, resolved => by
      obtain ⟨values, fieldsResolved, rfl⟩ := map_eq_ok resolved
      exact .object (fillsFields_of_resolve registry fields values fieldsResolved)
  | .reference found, value, resolved => by
      rw [resolve] at resolved
      split at resolved
      · next known =>
          cases resolved
          exact lookUp_fills known
      · cases resolved
  | .placeholder, value, resolved => by
      cases stand with
      | none => cases resolved
      | some address =>
          cases resolved
          exact .placeholder rfl

theorem fillsItems_of_resolve (registry : Registry) :
    ∀ (items : List Template) (values : List Value),
      resolveItems registry.lookUp stand items = .ok values →
      FillsItems registry.records stand items values
  | [], values, resolved => by
      cases resolved
      exact .nil
  | item :: rest, values, resolved => by
      obtain ⟨first, firstResolved, continuation⟩ := bind_eq_ok resolved
      obtain ⟨others, othersResolved, shape⟩ := bind_eq_ok continuation
      cases shape
      exact .cons (fills_of_resolve registry item first firstResolved)
        (fillsItems_of_resolve registry rest others othersResolved)

theorem fillsFields_of_resolve (registry : Registry) :
    ∀ (fields : List (String × Template)) (values : List (String × Value)),
      resolveFields registry.lookUp stand fields = .ok values →
      FillsFields registry.records stand fields values
  | [], values, resolved => by
      cases resolved
      exact .nil
  | (key, template) :: rest, values, resolved => by
      obtain ⟨first, firstResolved, continuation⟩ := bind_eq_ok resolved
      obtain ⟨others, othersResolved, shape⟩ := bind_eq_ok continuation
      cases shape
      exact .cons (fills_of_resolve registry template first firstResolved)
        (fillsFields_of_resolve registry rest others othersResolved)

end

mutual

/-- A template that can be filled is resolved, and to nothing else. -/
theorem Fills.resolve_eq (registry : Registry) :
    ∀ {template : Template} {value : Value}, Fills registry.records stand template value →
      template.resolve registry.lookUp stand = .ok value
  | _, _, .scalar => rfl
  | _, _, .list items => by rw [resolve, items.resolve_eq registry]; rfl
  | _, _, .tuple items => by rw [resolve, items.resolve_eq registry]; rfl
  | _, _, .object fields => by rw [resolve, fields.resolve_eq registry]; rfl
  | _, _, .reference member same => by
      rename_i found record
      have present : registry.find? (.text found.name) = some record :=
        Registry.find?_eq_some_iff.mpr ⟨member, Scalar.key_eq_text_iff.mpr same⟩
      rw [resolve, Registry.lookUp, present]
      rfl
  | _, _, .placeholder given => by
      subst given
      rfl

theorem FillsItems.resolve_eq (registry : Registry) :
    ∀ {items : List Template} {values : List Value}, FillsItems registry.records stand items values →
      resolveItems registry.lookUp stand items = .ok values
  | _, _, .nil => rfl
  | _, _, .cons item rest => by
      rw [resolveItems, item.resolve_eq registry, rest.resolve_eq registry]
      rfl

theorem FillsFields.resolve_eq (registry : Registry) :
    ∀ {fields : List (String × Template)} {values : List (String × Value)},
      FillsFields registry.records stand fields values →
      resolveFields registry.lookUp stand fields = .ok values
  | _, _, .nil => rfl
  | _, _, .cons field rest => by
      rw [resolveFields, field.resolve_eq registry, rest.resolve_eq registry]
      rfl

end

/-- Resolution finds the filled template, and fails where there is none. -/
theorem resolve_eq_ok_iff {registry : Registry} {template : Template} {value : Value}
    {contract : Option Scalar} :
    registry.resolve template stand contract = .ok value ↔
      Fills registry.records stand template value := by
  rw [Registry.resolve]
  constructor
  · intro resolved
    apply fills_of_resolve registry
    cases computed : template.resolve registry.lookUp stand with
    | error marker => rw [computed] at resolved; cases resolved
    | ok found =>
        rw [computed] at resolved
        cases resolved
        rfl
  · intro filled
    rw [filled.resolve_eq registry]
    rfl

section

variable {lookUp other : Reference → Option Value}

mutual

/-- What a template comes to depends on nothing but what its references stand for. -/
theorem resolve_congr : ∀ template : Template,
    (∀ reference ∈ template.references, other reference = lookUp reference) →
      template.resolve other stand = template.resolve lookUp stand
  | .scalar _, _ => rfl
  | .list items, agree => by rw [resolve, resolve, resolveItems_congr items agree]
  | .tuple items, agree => by rw [resolve, resolve, resolveItems_congr items agree]
  | .object fields, agree => by rw [resolve, resolve, resolveFields_congr fields agree]
  | .reference found, agree => by rw [resolve, resolve, agree found List.mem_cons_self]
  | .placeholder, _ => by cases stand <;> rfl

theorem resolveItems_congr : ∀ items : List Template,
    (∀ reference ∈ itemReferences items, other reference = lookUp reference) →
      resolveItems other stand items = resolveItems lookUp stand items
  | [], _ => rfl
  | item :: rest, agree => by
      rw [itemReferences, List.forall_mem_append] at agree
      rw [resolveItems, resolveItems, resolve_congr item agree.1, resolveItems_congr rest agree.2]

theorem resolveFields_congr : ∀ fields : List (String × Template),
    (∀ reference ∈ fieldReferences fields, other reference = lookUp reference) →
      resolveFields other stand fields = resolveFields lookUp stand fields
  | [], _ => rfl
  | (key, template) :: rest, agree => by
      rw [fieldReferences, List.forall_mem_append] at agree
      rw [resolveFields, resolveFields, resolve_congr template agree.1,
        resolveFields_congr rest agree.2]

end

end

mutual

@[simp] theorem hasMarkers_ofValue : ∀ value : Value, (ofValue value).hasMarkers = false
  | .scalar _ => rfl
  | .list items => itemsHaveMarkers_ofItems items
  | .object fields => fieldsHaveMarkers_ofFields fields

theorem itemsHaveMarkers_ofItems : ∀ items : List Value, itemsHaveMarkers (ofItems items) = false
  | [] => rfl
  | item :: rest => by
      rw [ofItems, itemsHaveMarkers, hasMarkers_ofValue item, itemsHaveMarkers_ofItems rest]
      rfl

theorem fieldsHaveMarkers_ofFields :
    ∀ fields : List (String × Value), fieldsHaveMarkers (ofFields fields) = false
  | [] => rfl
  | (_, value) :: rest => by
      rw [ofFields, fieldsHaveMarkers, hasMarkers_ofValue value, fieldsHaveMarkers_ofFields rest]
      rfl

end

mutual

/-- A value refers to nothing. -/
@[simp] theorem references_ofValue : ∀ value : Value, (ofValue value).references = []
  | .scalar _ => rfl
  | .list items => itemReferences_ofItems items
  | .object fields => fieldReferences_ofFields fields

theorem itemReferences_ofItems : ∀ items : List Value, itemReferences (ofItems items) = []
  | [] => rfl
  | item :: rest => by
      rw [ofItems, itemReferences, references_ofValue item, itemReferences_ofItems rest]
      rfl

theorem fieldReferences_ofFields :
    ∀ fields : List (String × Value), fieldReferences (ofFields fields) = []
  | [] => rfl
  | (_, value) :: rest => by
      rw [ofFields, fieldReferences, references_ofValue value, fieldReferences_ofFields rest]
      rfl

end

mutual

/-- A value is filled by itself, whatever is recorded. -/
theorem fills_ofValue : ∀ value : Value, Fills records stand (ofValue value) value
  | .scalar _ => .scalar
  | .list items => .list (fillsItems_ofItems items)
  | .object fields => .object (fillsFields_ofFields fields)

theorem fillsItems_ofItems : ∀ items : List Value, FillsItems records stand (ofItems items) items
  | [] => .nil
  | item :: rest => .cons (fills_ofValue item) (fillsItems_ofItems rest)

theorem fillsFields_ofFields :
    ∀ fields : List (String × Value), FillsFields records stand (ofFields fields) fields
  | [] => .nil
  | (_, value) :: rest => .cons (fills_ofValue value) (fillsFields_ofFields rest)

end

theorem value_ofValue (value : Value) : (ofValue value).value = .ok value := by
  have filled : Fills (Registry.empty .null).records none (ofValue value) value :=
    fills_ofValue value
  rw [Template.value, hasMarkers_ofValue]
  exact filled.resolve_eq (Registry.empty .null)

mutual

/-- More records do not change what a template is filled with. -/
theorem Fills.mono {larger : List Record} (within : records ⊆ larger) :
    ∀ {template : Template} {value : Value}, Fills records stand template value →
      Fills larger stand template value
  | _, _, .scalar => .scalar
  | _, _, .list items => .list (items.mono within)
  | _, _, .tuple items => .tuple (items.mono within)
  | _, _, .object fields => .object (fields.mono within)
  | _, _, .reference member same => .reference (within member) same
  | _, _, .placeholder given => .placeholder given

theorem FillsItems.mono {larger : List Record} (within : records ⊆ larger) :
    ∀ {items : List Template} {values : List Value}, FillsItems records stand items values →
      FillsItems larger stand items values
  | _, _, .nil => .nil
  | _, _, .cons item rest => .cons (item.mono within) (rest.mono within)

theorem FillsFields.mono {larger : List Record} (within : records ⊆ larger) :
    ∀ {fields : List (String × Template)} {values : List (String × Value)},
      FillsFields records stand fields values → FillsFields larger stand fields values
  | _, _, .nil => .nil
  | _, _, .cons field rest => .cons (field.mono within) (rest.mono within)

end

/-- There is one way to fill a template from the records of a registry. -/
theorem Fills.unique {registry : Registry} {template : Template} {first second : Value}
    (left : Fills registry.records stand template first)
    (right : Fills registry.records stand template second) : first = second :=
  Except.ok.inj ((left.resolve_eq registry).symm.trans (right.resolve_eq registry))

end Template

end Rollout
