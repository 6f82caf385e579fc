import Mathlib.Data.List.Nodup
import Rollout.Registry

/-!
# Growth of registries

A record is found by its name and by no other, and a new one comes last. What was found stays
found.
-/

set_option autoImplicit false

namespace Rollout

namespace Scalar

/-- Only a text names the same thing as a text. -/
@[simp] theorem key_eq_text_iff {name : Scalar} {text : String} :
    name.key = .text text ↔ name = .text text := by
  cases name with
  | null | bool | int | text => simp [key]
  | float value =>
      cases whole : value.toInt? <;> simp [key, whole]

theorem sameName_iff {left right : Scalar} : left.sameName right = true ↔ left.key = right.key := by
  simp [sameName]

end Scalar

namespace Registry

variable {registry extended : Registry} {record : Record} {name : Scalar}

private theorem key_eq_of_find?_eq_some (found : registry.find? name = some record) :
    record.name.key = name.key := by
  have same := List.find?_some found
  exact Scalar.sameName_iff.mp same

/-- Names are distinct, so the record of a name is the only one that has it. -/
theorem find?_eq_some_iff :
    registry.find? name = some record ↔
      record ∈ registry.records ∧ record.name.key = name.key := by
  constructor
  · intro found
    exact ⟨List.mem_of_find?_eq_some found, key_eq_of_find?_eq_some found⟩
  · rintro ⟨member, same⟩
    cases found : registry.find? name with
    | none =>
        have absent := key_notMem_of_find?_eq_none found
        exact absurd (List.mem_map.mpr ⟨record, member, same⟩) absent
    | some other =>
        have unique := List.inj_on_of_nodup_map registry.distinct
          (List.mem_of_find?_eq_some found) member
          ((key_eq_of_find?_eq_some found).trans same.symm)
        rw [unique]

theorem find?_eq_none_iff :
    registry.find? name = none ↔ ∀ record ∈ registry.records, record.name.key ≠ name.key := by
  constructor
  · intro absent record member same
    exact key_notMem_of_find?_eq_none absent (List.mem_map.mpr ⟨record, member, same⟩)
  · intro differs
    refine List.find?_eq_none.mpr fun record member same => ?_
    exact differs record member (Scalar.sameName_iff.mp same)

theorem contains_iff :
    registry.contains name = true ↔ ∃ record ∈ registry.records, record.name.key = name.key := by
  rw [contains, Option.isSome_iff_exists]
  simp only [find?_eq_some_iff]

theorem contains_eq_false_iff : registry.contains name = false ↔ registry.find? name = none := by
  simp [contains]

/-- What is recorded is found again where there is more. -/
theorem find?_of_subset {larger : Registry} (within : registry.records ⊆ larger.records)
    (present : registry.contains name = true) : larger.find? name = registry.find? name := by
  obtain ⟨record, found⟩ := Option.isSome_iff_exists.mp present
  obtain ⟨member, same⟩ := find?_eq_some_iff.mp found
  rw [found, find?_eq_some_iff]
  exact ⟨within member, same⟩

theorem find?_perm {other : Registry} (permuted : registry.records.Perm other.records)
    (name : Scalar) : registry.find? name = other.find? name := by
  apply Option.ext
  intro record
  rw [find?_eq_some_iff, find?_eq_some_iff, permuted.mem_iff]

/-- A name that is not recorded can be: its record comes last, and all else stays. -/
theorem add_of_find?_eq_none (absent : registry.find? record.name = none) :
    ∃ extended, registry.add record = .ok extended ∧
      extended.records = registry.records ++ [record] ∧ extended.chainId = registry.chainId := by
  unfold add
  split
  · next found => rw [absent] at found; cases found
  · exact ⟨_, rfl, rfl, rfl⟩

/-- A name that is recorded is refused, and the record of that name is told. -/
theorem add_of_find?_eq_some {existing : Record}
    (found : registry.find? record.name = some existing) :
    registry.add record =
      .error (.alreadyRecorded record.name existing.address existing.codeId) := by
  unfold add
  split
  · next known =>
      rw [found] at known
      cases known
      rfl
  · next absent =>
      rw [found] at absent
      cases absent

end Registry

end Rollout
