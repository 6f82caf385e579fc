import Rollout.Proofs.Registry.Saving
import Rollout.Proofs.Value.Integer

/-!
# Loaded registries

Whatever document a registry is read from, its names are texts and its integers are short enough to
be read again. What else it holds need only be texts for it to come back from its own document and
from the file that it is saved in.
-/

set_option autoImplicit false

namespace Rollout

open Rollout.Value (FieldsHold)

namespace Registry

variable {registry extended : Registry} {record : Record}

theorem requiredField_eq_ok {fields : List (String × Value)} {key : String} {value : Value}
    (given : requiredField fields key = .ok value) : fields.lookup key = some value := by
  unfold requiredField at given
  split at given
  · next found =>
      cases given
      exact found
  · cases given

private theorem legible_of_readRecord {name : String} {entry : Value}
    (short : entry.Holds Scalar.Short)
    (read : readRecord name entry = .ok record) : record.Legible := by
  cases entry with
  | scalar | list => cases read
  | object fields =>
      obtain ⟨given, found, continued⟩ := Computation.bind_eq_ok read
      obtain ⟨codeId, taken, ended⟩ := Computation.bind_eq_ok continued
      obtain ⟨address, placed, same⟩ := Computation.bind_eq_ok ended
      cases same
      have taken := Computation.mapError_eq_ok.mp taken
      have bounded := Value.holds_of_lookup short (requiredField_eq_ok found)
      have addressShort := Value.holds_of_lookup short (requiredField_eq_ok placed)
      cases given with
      | list | object => cases taken
      | scalar value =>
          exact ⟨⟨⟨name, rfl⟩, codeId, rfl, bounded codeId taken⟩,
            addressShort.imp fun _ => Scalar.Short.quotable⟩

private theorem add_eq_ok (added : registry.add record = .ok extended) :
    extended.records = registry.records ++ [record] ∧ extended.chainId = registry.chainId := by
  unfold add at added
  split at added
  · cases added
  · cases added
    exact ⟨rfl, rfl⟩

private theorem legible_of_addEntries {entries : List (String × Value)}
    (short : FieldsHold Scalar.Short entries) (earlier : registry.Legible)
    (added : registry.addEntries entries = .ok extended) : extended.Legible := by
  induction entries generalizing registry with
  | nil =>
      cases added
      exact earlier
  | cons field rest ih =>
      obtain ⟨here, others⟩ := short
      obtain ⟨record, read, continued⟩ := Computation.bind_eq_ok added
      obtain ⟨grown, recorded, ended⟩ := Computation.bind_eq_ok continued
      obtain ⟨records, chainId⟩ := add_eq_ok recorded
      exact ih others (earlier.append (legible_of_readRecord here read) records chainId) ended

private theorem objectFields_eq_ok {value : Value} {fields : List (String × Value)}
    (given : objectFields value = .ok fields) : value = .object fields := by
  cases value with
  | scalar | list => cases given
  | object =>
      cases given
      rfl

private theorem legible_of_ofValue {document : Value} (short : document.Holds Scalar.Short)
    (given : ofValue document = .ok registry) : registry.Legible := by
  obtain ⟨fields, top, continued⟩ := Computation.bind_eq_ok given
  obtain ⟨metadata, told, reached⟩ := Computation.bind_eq_ok continued
  obtain ⟨entries, listed, added⟩ := Computation.bind_eq_ok reached
  rw [objectFields_eq_ok top] at short
  have entriesShort := Value.fieldsHold_of_field short (objectFields_eq_ok listed)
  have metadataShort := Value.fieldsHold_of_field short (objectFields_eq_ok told)
  have fresh : (empty (Value.fieldOrNull metadata "chain_id")).Legible := by
    refine ⟨?_, fun record member => absurd member List.not_mem_nil⟩
    exact (Value.holds_fieldOrNull Scalar.short_null metadataShort).imp
      fun _ => Scalar.Short.quotable
  exact legible_of_addEntries entriesShort fresh added

/-- A loaded registry is legible, whatever its file says: readers take no longer numerals. -/
theorem legible_of_load {files : Files} {path : Path} (loaded : load files path = .ok registry) :
    registry.Legible := by
  obtain ⟨there, _, continued⟩ := Computation.bind_eq_ok loaded
  cases there with
  | false => cases continued
  | true =>
      obtain ⟨document, read, given⟩ := Computation.bind_eq_ok continued
      obtain ⟨text, _, parsed⟩ := Computation.bind_eq_ok read
      have short := Json.short_of_read (Computation.mapError_eq_ok.mp parsed)
      exact legible_of_ofValue short given

theorem coded_of_load {files : Files} {path : Path} (loaded : load files path = .ok registry) :
    registry.Coded :=
  (legible_of_load loaded).coded

def foreignPlace : Path :=
  ⟨"/", ["registry.json"]⟩

end Registry

end Rollout
