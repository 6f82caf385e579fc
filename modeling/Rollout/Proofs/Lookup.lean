import Mathlib.Data.List.Forall2
import Mathlib.Data.List.Induction
import Mathlib.Data.List.Nodup
import Rollout.Value

/-!
# Looking up fields

What a list of fields gives under a key depends on the first field that has it. Where no key is
repeated this is any field that has it. Setting one field after the other leaves each key where it
came first, with the value that came last.
-/

set_option autoImplicit false

namespace Rollout.Fields

variable {α β : Type}

theorem isSome_lookup_iff {fields : List (String × α)} {key : String} :
    (fields.lookup key).isSome = true ↔ key ∈ fields.map (·.1) := by
  rw [List.lookup_isSome_iff, List.mem_map]
  refine exists_congr fun field => and_congr_right fun _ => ?_
  rw [beq_iff_eq, eq_comm]

/-- Whether there is a field with a key depends on the keys alone. -/
theorem isSome_lookup_congr {left : List (String × α)} {right : List (String × β)}
    (same : left.map (·.1) = right.map (·.1)) (key : String) :
    (left.lookup key).isSome = (right.lookup key).isSome := by
  rw [Bool.eq_iff_iff, isSome_lookup_iff, isSome_lookup_iff, same]

theorem lookup_eq_none_congr {left : List (String × α)} {right : List (String × β)}
    (same : left.map (·.1) = right.map (·.1)) {key : String} :
    left.lookup key = none ↔ right.lookup key = none := by
  rw [← Option.isNone_iff_eq_none, ← Option.isNone_iff_eq_none, ← Option.not_isSome,
    ← Option.not_isSome, isSome_lookup_congr same]

theorem mem_of_lookup {fields : List (String × α)} {key : String} {value : α}
    (found : fields.lookup key = some value) : (key, value) ∈ fields := by
  obtain ⟨before, behind, rfl, _⟩ := List.lookup_eq_some_iff.mp found
  simp

theorem lookup_of_mem {fields : List (String × α)} (distinct : (fields.map (·.1)).Nodup)
    {field : String × α} (member : field ∈ fields) : fields.lookup field.1 = some field.2 := by
  induction fields with
  | nil => cases member
  | cons first rest ih =>
      rw [List.map_cons, List.nodup_cons] at distinct
      rw [List.lookup_cons]
      rcases List.mem_cons.mp member with rfl | later
      · simp
      · have apart : field.1 ≠ first.1 := fun same =>
          distinct.1 (same ▸ List.mem_map_of_mem later)
        simp [beq_eq_false_iff_ne.mpr apart, ih distinct.2 later]

/-- Lists that go together field by field go together under every key. -/
theorem rel_lookup {relation : α → β → Prop} {left : List (String × α)} {right : List (String × β)}
    (each : List.Forall₂ (fun field other => field.1 = other.1 ∧ relation field.2 other.2) left
      right) (key : String) : Option.Rel relation (left.lookup key) (right.lookup key) := by
  induction each with
  | nil => exact .none
  | @cons field other _ _ here _ ih =>
      obtain ⟨same, related⟩ := here
      rw [List.lookup_cons, List.lookup_cons, same]
      cases key == other.1 with
      | true => exact .some related
      | false => exact ih

theorem keys_eq {relation : α → β → Prop} {left : List (String × α)} {right : List (String × β)}
    (each : List.Forall₂ (fun field other => field.1 = other.1 ∧ relation field.2 other.2) left
      right) : left.map (·.1) = right.map (·.1) := by
  induction each with
  | nil => rfl
  | cons here _ ih => rw [List.map_cons, List.map_cons, here.1, ih]

/-!
## Setting fields
-/

section

variable (key : String) (value : α)

private theorem lookup_setField (other : String) (fields : List (String × α)) :
    (setField key value fields).lookup other = ((key, value) :: fields).lookup other := by
  induction fields with
  | nil => rfl
  | cons field rest ih =>
      obtain ⟨existing, old⟩ := field
      rw [setField]
      split
      · next same =>
          subst same
          cases asked : other == existing <;> simp [List.lookup_cons, asked]
      · next differs =>
          cases asked : other == existing with
          | false => simp only [List.lookup_cons, asked, ih]
          | true =>
              obtain rfl := beq_iff_eq.mp asked
              have apart : (other == key) = false := beq_eq_false_iff_ne.mpr differs
              simp only [List.lookup_cons, beq_self_eq_true, apart]

private theorem keys_setField (fields : List (String × α)) :
    (setField key value fields).map (·.1) =
      if key ∈ fields.map (·.1) then fields.map (·.1) else fields.map (·.1) ++ [key] := by
  induction fields with
  | nil => rfl
  | cons field rest ih =>
      obtain ⟨existing, old⟩ := field
      rw [setField]
      by_cases same : existing = key
      · simp [same]
      · have apart : ¬key = existing := fun equal => same equal.symm
        rw [if_neg same, List.map_cons, ih]
        by_cases listed : key ∈ rest.map (·.1)
        · simp [listed]
        · simp [listed, apart]

end

/-- A field that is set again has its last value. -/
theorem lookup_foldl_setField (key : String) (done fields : List (String × α)) :
    (fields.foldl (fun earlier field => setField field.1 field.2 earlier) done).lookup key =
      (fields.reverse ++ done).lookup key := by
  induction fields generalizing done with
  | nil => rfl
  | cons field rest ih =>
      rw [List.foldl_cons, ih, List.reverse_cons, List.append_assoc, List.lookup_append,
        List.lookup_append, lookup_setField]
      rfl

/-- The keys of fields that are set stand in the order of their first occurrence. -/
theorem keys_foldl_setField (fields : List (String × α)) :
    (fields.foldl (fun earlier field => setField field.1 field.2 earlier) []).map (·.1) =
      (fields.map (·.1)).eraseDups := by
  induction fields using List.reverseRecOn with
  | nil => rfl
  | append_singleton earlier field ih =>
      rw [List.foldl_append, List.foldl_cons, List.foldl_nil, keys_setField, ih, List.map_append,
        List.eraseDups_append, List.map_cons, List.map_nil, List.cons_removeAll]
      simp only [List.mem_eraseDups, List.contains_eq_mem, decide_eq_false_iff_not]
      split
      · simp
      · simp [List.eraseDups_cons]

theorem nodup_keys_foldl_setField (fields : List (String × α)) :
    ((fields.foldl (fun earlier field => setField field.1 field.2 earlier) []).map (·.1)).Nodup := by
  induction fields using List.reverseRecOn with
  | nil => exact List.nodup_nil
  | append_singleton earlier field ih =>
      rw [List.foldl_append, List.foldl_cons, List.foldl_nil, keys_setField]
      split
      · exact ih
      · next fresh =>
          rw [← List.concat_eq_append]
          exact ih.concat fresh

end Rollout.Fields
