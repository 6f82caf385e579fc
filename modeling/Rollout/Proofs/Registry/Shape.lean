import Rollout.Proofs.Registry.Repetition

/-!
# Shapes of registry documents

Which registry files have a shape that their reader does not expect. A numeral that cannot be read
is refused as a file; an entry that lacks something, or a code id that is no number at all, is not
looked for.
-/

set_option autoImplicit false

namespace Rollout

open Rollout.Computation (Fails FirstRefused)

/-- The fault is of a kind that nobody reports. -/
def Fault.Unexpected (fault : Fault) : Prop :=
  fault.isReported = false

/-- A value that is neither a number nor a text, or a number without end. -/
def Value.Uncountable : Value → Prop
  | .scalar .null | .list _ | .object _ => True
  | .float value => ∃ negative, value = .infinite negative
  | _ => False

theorem Value.toInteger_unexpected_iff (value : Value) :
    Fails (fun fault => (Fault.integer fault).Unexpected) value.toInteger ↔ value.Uncountable := by
  unfold Fails Fault.Unexpected
  cases value with
  | list | object => simp [toInteger, Fault.isReported, Uncountable]
  | scalar value =>
      cases value with
      | null | bool | int => simp [toInteger, Fault.isReported, Uncountable]
      | text value =>
          rw [toInteger]
          cases Number.readInt value <;> simp [Except.mapError, Fault.isReported, Uncountable]
      | float value =>
          cases value with
          | nan | infinite | finite =>
              simp [toInteger, Number.Binary64.truncate?, Fault.isReported, Uncountable]

namespace Registry

/-- An entry that can be read as a record. -/
def ReadableEntry (entry : Value) : Prop :=
  ∃ fields codeId number address, entry = .object fields ∧
    fields.lookup "code_id" = some codeId ∧ codeId.toInteger = .ok number ∧
    fields.lookup "address" = some address

/-- An entry is no object, or it lacks a code id that can be counted, or else an address. -/
def MisshapenEntry (entry : Value) : Prop :=
  ∀ fields codeId, entry = .object fields → fields.lookup "code_id" = some codeId →
    codeId.Uncountable ∨ (∃ number, codeId.toInteger = .ok number) ∧ fields.lookup "address" = none

theorem readRecord_isOk_iff (name : String) {entry : Value} :
    (∃ record, readRecord name entry = .ok record) ↔ ReadableEntry entry := by
  constructor
  · rintro ⟨record, read⟩
    cases entry with
    | scalar | list => cases read
    | object fields =>
        obtain ⟨codeId, coded, afterCode⟩ := Computation.bind_eq_ok read
        obtain ⟨number, counted, afterNumber⟩ := Computation.bind_eq_ok afterCode
        obtain ⟨address, addressed, _⟩ := Computation.bind_eq_ok afterNumber
        exact ⟨fields, codeId, number, address, rfl, requiredField_eq_ok coded,
          Computation.mapError_eq_ok.mp counted, requiredField_eq_ok addressed⟩
  · rintro ⟨fields, codeId, number, address, rfl, coded, counted, addressed⟩
    simp only [readRecord, requiredField, coded, counted, addressed, bind, Except.bind,
      Except.mapError]
    exact ⟨_, rfl⟩

theorem readRecord_unexpected_iff (name : String) {entry : Value} :
    Fails Fault.Unexpected (readRecord name entry) ↔ MisshapenEntry entry := by
  cases entry with
  | scalar | list => exact iff_of_true ⟨_, rfl, rfl⟩ (by simp [MisshapenEntry])
  | object fields =>
      have top : MisshapenEntry (.object fields) ↔
          ∀ codeId, fields.lookup "code_id" = some codeId → codeId.Uncountable ∨
            (∃ number, codeId.toInteger = .ok number) ∧ fields.lookup "address" = none := by
        refine ⟨fun shape codeId coded => shape fields codeId rfl coded, ?_⟩
        rintro shape _ codeId ⟨⟩ coded
        exact shape codeId coded
      rw [top, readRecord]
      cases coded : fields.lookup "code_id" with
      | none =>
          simp only [requiredField, coded, bind, Except.bind]
          exact iff_of_true ⟨_, rfl, rfl⟩ (by simp)
      | some codeId =>
          simp only [requiredField, coded, bind, Except.bind, Option.some.injEq, forall_eq']
          rw [← Value.toInteger_unexpected_iff]
          cases codeId.toInteger with
          | error fault => simp [Except.mapError]
          | ok number =>
              cases addressed : fields.lookup "address" with
              | none => exact iff_of_true ⟨_, rfl, rfl⟩ (.inr ⟨⟨number, rfl⟩, rfl⟩)
              | some address => simp [Except.mapError, pure, Except.pure]

/-- The document is no object with objects for its parts, or the first of its contracts that cannot
be read is misshapen. -/
def Misshapen (document : Value) : Prop :=
  ∀ fields metadata entries, document = .object fields →
    Value.field fields "metadata" (.object []) = .object metadata →
    Value.field fields "contracts" (.object []) = .object entries →
    FirstRefused (fun field => ReadableEntry field.2) (fun field => MisshapenEntry field.2) entries

private theorem ReadableEntry.not_misshapen {entry : Value} (readable : ReadableEntry entry) :
    ¬MisshapenEntry entry := by
  obtain ⟨record, read⟩ := (readRecord_isOk_iff "").mpr readable
  rw [← readRecord_unexpected_iff "", read]
  rintro ⟨_, ⟨⟩, _⟩

theorem addEntries_unexpected_iff {registry : Registry} {entries : List (String × Value)}
    (distinct : (entries.map (·.1)).Nodup)
    (fresh : ∀ field ∈ entries, registry.find? (.text field.1) = none) :
    Fails Fault.Unexpected (registry.addEntries entries) ↔
      FirstRefused (fun field => ReadableEntry field.2) (fun field => MisshapenEntry field.2)
        entries := by
  have exclusive : ∀ field : String × Value, ReadableEntry field.2 → ¬MisshapenEntry field.2 :=
    fun _ => ReadableEntry.not_misshapen
  rcases addEntries_split distinct fresh with ⟨fault, first, ended⟩ |
    ⟨extended, records, ended, _, _, each⟩
  · obtain ⟨before, field, rest, rfl, passed, refused⟩ := first
    have stopped : ¬ReadableEntry field.2 := by
      rw [← readRecord_isOk_iff field.1, refused]
      rintro ⟨_, ⟨⟩⟩
    rw [ended, Computation.firstRefused_append exclusive
      (fun earlier member => (readRecord_isOk_iff _).mp (passed earlier member)) stopped,
      ← readRecord_unexpected_iff field.1, refused]
    simp
  · rw [ended]
    refine iff_of_false ?_ (Computation.not_firstRefused exclusive ?_)
    · rintro ⟨_, ⟨⟩, _⟩
    · intro field member
      exact (readRecord_isOk_iff _).mp (Computation.exists_of_mem_left each field member)

theorem objectFields_unexpected_iff {α : Type} {value : Value}
    {next : List (String × Value) → Except Fault α} :
    Fails Fault.Unexpected (objectFields value >>= next) ↔
      ∀ fields, value = .object fields → Fails Fault.Unexpected (next fields) := by
  cases value with
  | scalar | list => exact iff_of_true ⟨_, rfl, rfl⟩ (by simp)
  | object fields =>
      refine ⟨?_, fun every => every fields rfl⟩
      rintro failed _ ⟨⟩
      exact failed

theorem ofValue_unexpected_iff {document : Value}
    (distinct : ∀ fields entries, document = .object fields →
      Value.field fields "contracts" (.object []) = .object entries →
        (entries.map (·.1)).Nodup) :
    Fails Fault.Unexpected (ofValue document) ↔ Misshapen document := by
  rw [ofValue, objectFields_unexpected_iff, Misshapen]
  refine forall_congr' fun fields => ?_
  simp only [objectFields_unexpected_iff]
  constructor
  · intro failed metadata entries top described listed
    have failedEntries := failed top metadata described entries listed
    exact (addEntries_unexpected_iff (distinct fields entries top listed)
      fun field _ => find?_empty _ (.text field.1)).mp failedEntries
  · intro misshapen top metadata described entries listed
    have misshapenEntries := misshapen metadata entries top described listed
    exact (addEntries_unexpected_iff (distinct fields entries top listed)
      fun field _ => find?_empty _ (.text field.1)).mpr misshapenEntries

private theorem distinct_contracts_of_read {text : String} {document : Value}
    (parsed : Json.read text = .ok document) {fields entries : List (String × Value)}
    (top : document = .object fields)
    (listed : Value.field fields "contracts" (.object []) = .object entries) :
    (entries.map (·.1)).Nodup := by
  obtain ⟨listing, _, rfl⟩ := Json.read_eq_ok_iff.mp parsed
  cases listing with
  | scalar | list => cases top
  | object raw =>
      cases top
      rw [field_collected raw "contracts" (.object []) rfl] at listed
      exact distinct_of_objectFields (congrArg objectFields listed)

/-- Of the files that cannot be loaded, those with a document of another shape than it should have
fail in a way that is not expected. -/
theorem load_unexpected_iff (files : Files) (path : Path) :
    Fails Fault.Unexpected (load files path) ↔ Json.FileTells files path Misshapen := by
  unfold Json.FileTells Json.Tells
  cases readable : files.readText path with
  | error fault =>
      refine iff_of_false ?_ (by simp)
      simp only [load, readDocument, readable, bind, Except.bind, Except.mapError]
      cases files.isThere path with
      | error other => simp [Fault.Unexpected, Fault.isReported]
      | ok there =>
          cases there <;> simp [Fault.Unexpected, Fault.isReported]
  | ok text =>
      have there : files.isThere path = .ok true := by
        obtain ⟨node, found, _⟩ := Computation.bind_eq_ok readable
        exact Files.isThere_of_find found
      simp only [load, there, readDocument, readable, bind, Except.bind, Except.mapError, if_true,
        Except.ok.injEq, exists_eq_left']
      cases parsed : Json.read text with
      | error fault => simp [Fault.Unexpected, Fault.isReported]
      | ok document =>
          simp only [Except.ok.injEq, exists_eq_left']
          exact ofValue_unexpected_iff fun _ _ => distinct_contracts_of_read parsed

end Registry

end Rollout
