import Rollout.Plan.Document
import Rollout.Proofs.Registry.Shape
import Rollout.Proofs.Template.Spelling

/-!
# Shapes of plan documents

What the entries of a plan document have to be like to be read, which of them are refused as those
of a plan, and which have a shape that the reader does not expect. The first entry that is not read
decides.
-/

set_option autoImplicit false

namespace Rollout

open Rollout.Computation
  (Fails FirstRefused fails_bind firstRefused_cons not_fails_ok not_firstRefused_nil)

/-- The fault says what is wrong with a plan. -/
def Fault.ConcernsPlan : Fault → Prop
  | planDocument .. | planEntry .. => True
  | marker fault => fault.isRefusal = true
  | _ => False

private theorem Fault.ConcernsPlan.not_unexpected {fault : Fault} (concerns : fault.ConcernsPlan) :
    ¬fault.Unexpected := by
  cases fault with
  | planDocument | planEntry | marker => exact Bool.noConfusion
  | _ => cases concerns

namespace Plan

/-- What is read is sorted by its shape: it is readable, it lacks something, or its shape is not
expected. -/
structure Sorted {α : Type} (readable lacking misshapen : Prop) (result : Except Fault α) :
    Prop where
  total : readable ∨ lacking ∨ misshapen
  ofReadable : readable → ∃ value, result = .ok value
  ofLacking : lacking → Fails Fault.ConcernsPlan result
  ofMisshapen : misshapen → Fails Fault.Unexpected result

namespace Sorted

variable {α β : Type} {readable lacking misshapen : Prop} {result : Except Fault α}
  (sorted : Sorted readable lacking misshapen result)
include sorted

theorem isOk_iff : (∃ value, result = .ok value) ↔ readable := by
  refine ⟨?_, sorted.ofReadable⟩
  rintro ⟨value, rfl⟩
  rcases sorted.total with readable | lacking | misshapen
  · exact readable
  · exact absurd (sorted.ofLacking lacking) (not_fails_ok value)
  · exact absurd (sorted.ofMisshapen misshapen) (not_fails_ok value)

private theorem of_fails {property : Fault → Prop} (fails : Fails property result) :
    lacking ∧ (∃ fault, property fault ∧ fault.ConcernsPlan) ∨
      misshapen ∧ ∃ fault, property fault ∧ fault.Unexpected := by
  rcases sorted.total with readable | lacking | misshapen
  · obtain ⟨value, rfl⟩ := sorted.ofReadable readable
    exact absurd fails (not_fails_ok value)
  · exact .inl ⟨lacking, fails.both (sorted.ofLacking lacking)⟩
  · exact .inr ⟨misshapen, fails.both (sorted.ofMisshapen misshapen)⟩

theorem concernsPlan_iff : Fails Fault.ConcernsPlan result ↔ lacking := by
  refine ⟨fun fails => ?_, sorted.ofLacking⟩
  rcases sorted.of_fails fails with ⟨lacking, _⟩ | ⟨_, fault, concerns, unexpected⟩
  · exact lacking
  · exact absurd unexpected concerns.not_unexpected

theorem unexpected_iff : Fails Fault.Unexpected result ↔ misshapen := by
  refine ⟨fun fails => ?_, sorted.ofMisshapen⟩
  rcases sorted.of_fails fails with ⟨_, fault, unexpected, concerns⟩ | ⟨misshapen, _⟩
  · exact absurd unexpected concerns.not_unexpected
  · exact misshapen

theorem foreign_iff : Fails (fun fault => ¬fault.ConcernsPlan) result ↔ misshapen := by
  constructor
  · intro fails
    rcases sorted.of_fails fails with ⟨_, fault, foreign, concerns⟩ | ⟨misshapen, _⟩
    · exact absurd concerns foreign
    · exact misshapen
  · intro misshapen
    apply (sorted.ofMisshapen misshapen).imp
    intro fault unexpected concerns
    exact concerns.not_unexpected unexpected

theorem bind {next : α → Except Fault β} {readableNext lackingNext misshapenNext : Prop}
    (continued : ∀ value, Sorted readableNext lackingNext misshapenNext (next value)) :
    Sorted (readable ∧ readableNext) (lacking ∨ readable ∧ lackingNext)
      (misshapen ∨ readable ∧ misshapenNext) (result >>= next) where
  total := by
    rcases sorted.total with here | lacking | misshapen
    · obtain ⟨value, _⟩ := sorted.ofReadable here
      rcases (continued value).total with readable | lacking | misshapen
      · exact .inl ⟨here, readable⟩
      · exact .inr (.inl (.inr ⟨here, lacking⟩))
      · exact .inr (.inr (.inr ⟨here, misshapen⟩))
    · exact .inr (.inl (.inl lacking))
    · exact .inr (.inr (.inl misshapen))
  ofReadable := by
    rintro ⟨here, behind⟩
    obtain ⟨value, rfl⟩ := sorted.ofReadable here
    exact (continued value).ofReadable behind
  ofLacking := by
    rintro (lacking | ⟨here, behind⟩)
    · exact fails_bind.mpr (.inl (sorted.ofLacking lacking))
    · obtain ⟨value, returned⟩ := sorted.ofReadable here
      exact fails_bind.mpr (.inr ⟨value, returned, (continued value).ofLacking behind⟩)
  ofMisshapen := by
    rintro (misshapen | ⟨here, behind⟩)
    · exact fails_bind.mpr (.inl (sorted.ofMisshapen misshapen))
    · obtain ⟨value, returned⟩ := sorted.ofReadable here
      exact fails_bind.mpr (.inr ⟨value, returned, (continued value).ofMisshapen behind⟩)

theorem congr {readable' lacking' misshapen' : Prop} (reads : readable ↔ readable')
    (lacks : lacking ↔ lacking') (misshapes : misshapen ↔ misshapen') :
    Sorted readable' lacking' misshapen' result := by
  rwa [← reads, ← lacks, ← misshapes]

end Sorted

private theorem sorted_ok {α : Type} (value : α) : Sorted True False False (.ok value) :=
  ⟨.inl trivial, fun _ => ⟨value, rfl⟩, False.elim, False.elim⟩

private theorem sorted_lacking {α : Type} (fault : Fault) (concerns : fault.ConcernsPlan) :
    Sorted False True False (.error fault : Except Fault α) :=
  ⟨.inr (.inl trivial), False.elim, fun _ => ⟨fault, rfl, concerns⟩, False.elim⟩

private theorem sorted_misshapen {α : Type} (fault : Fault) (unexpected : fault.Unexpected) :
    Sorted False False True (.error fault : Except Fault α) :=
  ⟨.inr (.inr trivial), False.elim, False.elim, fun _ => ⟨fault, rfl, unexpected⟩⟩

private theorem decode_sorted {message : Value} (quotable : message.Quotable) :
    Sorted (Template.WellMarked message) (¬Template.WellMarked message) False
      ((Template.decode message).mapError .marker) := by
  rw [← Template.decode_isOk_iff]
  cases decoded : Template.decode message with
  | ok template => exact (sorted_ok template).congr (by simp) (by simp) Iff.rfl
  | error fault =>
      have refusal := Template.isRefusal_of_decode quotable decoded
      exact (sorted_lacking (.marker fault) refusal).congr (by simp) (by simp) Iff.rfl

private theorem readEach_sorted {α : Type} {read : Nat → Value → Except Fault α}
    {readable lacking misshapen : Value → Prop}
    {entries : List Value} (each : ∀ index, ∀ entry ∈ entries,
      Sorted (readable entry) (lacking entry) (misshapen entry) (read index entry))
    (index : Nat) :
    Sorted (∀ entry ∈ entries, readable entry) (FirstRefused readable lacking entries)
      (FirstRefused readable misshapen entries) (readEach read index entries) := by
  induction entries generalizing index with
  | nil =>
      refine (sorted_ok []).congr (by simp) ?_ ?_
      · simp [not_firstRefused_nil]
      · simp [not_firstRefused_nil]
  | cons entry rest ih =>
      have others := ih fun place other member => each place other (List.mem_cons_of_mem _ member)
      have continued : ∀ first, Sorted (∀ entry ∈ rest, readable entry)
          (FirstRefused readable lacking rest) (FirstRefused readable misshapen rest)
          (readEach read (index + 1) rest >>= fun others => .ok (first :: others)) := by
        intro first
        refine ((others (index + 1)).bind fun others => sorted_ok (first :: others)).congr ?_ ?_ ?_
        · rw [and_true]
        · rw [and_false, or_false]
        · rw [and_false, or_false]
      refine ((each index entry List.mem_cons_self).bind continued).congr ?_ ?_ ?_
      · rw [List.forall_mem_cons]
      · rw [firstRefused_cons]
      · rw [firstRefused_cons]

/-!
## Entries
-/

/-- The artifact of a contract has a default path, and a text where it has another. -/
def Placed (fields : List (String × Value)) : Prop :=
  ∀ artifact, fields.lookup "wasm" = some artifact → ∃ text, artifact = .text text

/-- An entry has the fields of a contract, with a name and a message that are such. -/
def GivesContract (named : Scalar → Prop) (given : Value → Prop) (entry : Value) : Prop :=
  ∃ fields name message, entry = .object fields ∧
    fields.lookup "name" = some (.scalar name) ∧ named name ∧ Placed fields ∧
    fields.lookup "init_msg" = some message ∧ given message

/-- An entry has the fields of an update, with a target and a message that are such. -/
def GivesUpdate (targeted given : Value → Prop) (entry : Value) : Prop :=
  ∃ fields target message, entry = .object fields ∧
    fields.lookup "target" = some target ∧ targeted target ∧
    fields.lookup "msg" = some message ∧ given message

def ReadableContract : Value → Prop :=
  GivesContract (fun _ => True) Template.WellMarked

def ReadableUpdate : Value → Prop :=
  GivesUpdate (fun _ => True) Template.WellMarked

/-- A contract lacks its name, or else a message without misused markers. -/
def LacksContract (entry : Value) : Prop :=
  ∃ fields, entry = .object fields ∧
    (fields.lookup "name" = none ∨
      (∃ name, fields.lookup "name" = some (.scalar name)) ∧ Placed fields ∧
        ∀ message, fields.lookup "init_msg" = some message → ¬Template.WellMarked message)

/-- An update lacks its target, or a message without misused markers. -/
def LacksUpdate (entry : Value) : Prop :=
  ∃ fields, entry = .object fields ∧
    (fields.lookup "target" = none ∨
      ∀ message, fields.lookup "msg" = some message → ¬Template.WellMarked message)

/-- An entry is no object, or it has a name with parts or an artifact that is no text. -/
def MisshapenContract (entry : Value) : Prop :=
  ∀ fields, entry = .object fields →
    ∃ name, fields.lookup "name" = some name ∧ ((∀ scalar, name ≠ .scalar scalar) ∨ ¬Placed fields)

def MisshapenUpdate (entry : Value) : Prop :=
  ∀ fields, entry ≠ .object fields

private theorem artifactPath_of_placed {fields : List (String × Value)} (placed : Placed fields)
    (artifacts : Path) (name : Scalar) :
    ∃ text, artifactPath artifacts (Value.field fields "wasm" (.text (artifactName name))) =
      .ok (artifacts.child text) := by
  unfold Value.field
  cases found : fields.lookup "wasm" with
  | none => exact ⟨_, rfl⟩
  | some artifact =>
      obtain ⟨text, rfl⟩ := placed artifact found
      exact ⟨text, rfl⟩

theorem artifactPath_of_not_placed {fields : List (String × Value)} (displaced : ¬Placed fields)
    (artifacts : Path) (name : Scalar) :
    ∃ kind, artifactPath artifacts (Value.field fields "wasm" (.text (artifactName name))) =
      .error (.wrongKind kind) := by
  unfold Placed at displaced
  push Not at displaced
  obtain ⟨artifact, found, textless⟩ := displaced
  rw [Value.field, found, Option.getD_some, artifactPath.eq_def]
  split
  · next text => exact absurd rfl (textless text)
  · exact ⟨_, rfl⟩

private theorem contract_total (entry : Value) :
    ReadableContract entry ∨ LacksContract entry ∨ MisshapenContract entry := by
  cases entry with
  | scalar | list =>
      refine .inr (.inr ?_)
      intro fields same
      cases same
  | object fields =>
      cases named : fields.lookup "name" with
      | none => exact .inr (.inl ⟨fields, rfl, .inl named⟩)
      | some value =>
          by_cases keyed : ∃ name, value = .scalar name
          · obtain ⟨name, rfl⟩ := keyed
            by_cases placed : Placed fields
            · by_cases complete : ∃ message, fields.lookup "init_msg" = some message ∧
                Template.WellMarked message
              · obtain ⟨message, given, marked⟩ := complete
                exact .inl ⟨fields, name, message, rfl, named, trivial, placed, given, marked⟩
              · refine .inr (.inl ⟨fields, rfl, .inr ⟨⟨name, named⟩, placed, ?_⟩⟩)
                intro message given marked
                exact complete ⟨message, given, marked⟩
            · refine .inr (.inr ?_)
              rintro _ ⟨⟩
              exact ⟨_, named, .inr placed⟩
          · refine .inr (.inr ?_)
            rintro _ ⟨⟩
            exact ⟨value, named, .inl fun name same => keyed ⟨name, same⟩⟩

private theorem readDescriptor_sorted (artifacts : Path) (index : Nat) {entry : Value}
    (quotable : entry.Quotable) :
    Sorted (ReadableContract entry) (LacksContract entry) (MisshapenContract entry)
      (readDescriptor artifacts index entry) where
  total := contract_total entry
  ofReadable := by
    rintro ⟨fields, name, message, rfl, named, _, placed, given, marked⟩
    obtain ⟨text, located⟩ := artifactPath_of_placed placed artifacts name
    obtain ⟨template, decoded⟩ := (Template.decode_isOk_iff message).mpr marked
    simp only [readDescriptor, entryFields, entryField, named, given, located, decoded,
      Value.toKey, bind, Except.bind, Except.mapError]
    exact ⟨_, rfl⟩
  ofLacking := by
    rintro ⟨fields, rfl, missing | ⟨⟨name, named⟩, placed, incomplete⟩⟩
    · refine ⟨.planEntry .contracts index "name" (.object fields), ?_, trivial⟩
      simp only [readDescriptor, entryFields, entryField, missing, bind, Except.bind]
    · obtain ⟨text, located⟩ := artifactPath_of_placed placed artifacts name
      simp only [readDescriptor, entryFields, entryField, named, located, Value.toKey, bind,
        Except.bind]
      cases given : fields.lookup "init_msg" with
      | none => exact ⟨_, rfl, trivial⟩
      | some message =>
          obtain ⟨fault, failed, concerns⟩ :=
            (decode_sorted (Value.holds_of_lookup quotable given)).ofLacking
              (incomplete message given)
          exact ⟨fault, by simp only [failed], concerns⟩
  ofMisshapen := by
    intro misshapen
    cases entry with
    | scalar | list => exact ⟨_, rfl, rfl⟩
    | object fields =>
        obtain ⟨value, named, apart⟩ := misshapen fields rfl
        simp only [readDescriptor, entryFields, entryField, named, bind, Except.bind]
        cases value with
        | list | object => exact ⟨_, rfl, rfl⟩
        | scalar name =>
            rcases apart with apart | displaced
            · exact absurd rfl (apart name)
            · obtain ⟨kind, located⟩ := artifactPath_of_not_placed displaced artifacts name
              simp only [Value.toKey, located]
              exact ⟨_, rfl, rfl⟩

private theorem update_total (entry : Value) :
    ReadableUpdate entry ∨ LacksUpdate entry ∨ MisshapenUpdate entry := by
  cases entry with
  | scalar | list =>
      refine .inr (.inr ?_)
      intro fields same
      cases same
  | object fields =>
      cases targeted : fields.lookup "target" with
      | none => exact .inr (.inl ⟨fields, rfl, .inl targeted⟩)
      | some target =>
          by_cases complete : ∃ message, fields.lookup "msg" = some message ∧
            Template.WellMarked message
          · obtain ⟨message, given, marked⟩ := complete
            exact .inl ⟨fields, target, message, rfl, targeted, trivial, given, marked⟩
          · refine .inr (.inl ⟨fields, rfl, .inr ?_⟩)
            intro message given marked
            exact complete ⟨message, given, marked⟩

private theorem readUpdate_sorted (index : Nat) {entry : Value} (quotable : entry.Quotable) :
    Sorted (ReadableUpdate entry) (LacksUpdate entry) (MisshapenUpdate entry)
      (readUpdate index entry) where
  total := update_total entry
  ofReadable := by
    rintro ⟨fields, target, message, rfl, targeted, _, given, marked⟩
    obtain ⟨template, decoded⟩ := (Template.decode_isOk_iff message).mpr marked
    simp only [readUpdate, entryFields, entryField, targeted, given, decoded, bind, Except.bind,
      Except.mapError]
    exact ⟨_, rfl⟩
  ofLacking := by
    rintro ⟨fields, rfl, missing⟩
    simp only [readUpdate, entryFields, entryField, bind, Except.bind]
    cases targeted : fields.lookup "target" with
    | none => exact ⟨_, rfl, trivial⟩
    | some target =>
        cases given : fields.lookup "msg" with
        | none => exact ⟨_, rfl, trivial⟩
        | some message =>
            have unmarked : ¬Template.WellMarked message := by
              rcases missing with missing | incomplete
              · rw [targeted] at missing
                cases missing
              · exact incomplete message given
            obtain ⟨fault, failed, concerns⟩ :=
              (decode_sorted (Value.holds_of_lookup quotable given)).ofLacking unmarked
            exact ⟨fault, by simp only [failed], concerns⟩
  ofMisshapen := by
    intro misshapen
    cases entry with
    | scalar | list => exact ⟨_, rfl, rfl⟩
    | object fields => exact absurd rfl (misshapen fields)

/-!
## Documents
-/

/-- A section is given as something that has no entries. -/
def Unlisted (fields : List (String × Value)) (key : String) : Prop :=
  ∃ other, fields.lookup key = some (.scalar other) ∧ ∀ text, other ≠ .text text

/-- All entries of both sections are such. -/
def Gives (contract update : Value → Prop) (document : Value) : Prop :=
  ∃ fields contracts updates, document = .object fields ∧
    sectionEntries fields "contracts" = .ok contracts ∧
    sectionEntries fields "config_updates" = .ok updates ∧
    (∀ entry ∈ contracts, contract entry) ∧ ∀ entry ∈ updates, update entry

/-- The first entry of the document that is not readable is refused. -/
def Stumbles (contract update : Value → Prop) (document : Value) : Prop :=
  ∃ fields contracts, document = .object fields ∧
    sectionEntries fields "contracts" = .ok contracts ∧
    (FirstRefused ReadableContract contract contracts ∨
      (∀ entry ∈ contracts, ReadableContract entry) ∧
        ∃ updates, sectionEntries fields "config_updates" = .ok updates ∧
          FirstRefused ReadableUpdate update updates)

/-- The document is no object, or a section that is got to has no entries. -/
def Formless (document : Value) : Prop :=
  ∀ fields, document = .object fields →
    Unlisted fields "contracts" ∨
      ∃ contracts, sectionEntries fields "contracts" = .ok contracts ∧
        (∀ entry ∈ contracts, ReadableContract entry) ∧ Unlisted fields "config_updates"

def Misshapen (document : Value) : Prop :=
  Formless document ∨ Stumbles MisshapenContract MisshapenUpdate document

private theorem sectionEntries_cases (fields : List (String × Value)) (key : String) :
    (∃ entries, sectionEntries fields key = .ok entries ∧ ¬Unlisted fields key) ∨
      ∃ kind, sectionEntries fields key = .error (.wrongKind kind) ∧ Unlisted fields key := by
  unfold sectionEntries Unlisted Value.field
  cases found : fields.lookup key with
  | none => exact .inl ⟨[], rfl, by simp⟩
  | some value =>
      cases value with
      | list items => exact .inl ⟨items, rfl, by simp⟩
      | object entries => exact .inl ⟨_, rfl, by simp⟩
      | scalar value =>
          cases value with
          | text text => exact .inl ⟨_, rfl, by simp⟩
          | null | bool | int | float => exact .inr ⟨_, rfl, _, rfl, by simp⟩

private theorem quotable_of_sectionEntries {fields : List (String × Value)} {key : String}
    {entries : List Value} (quotable : (Value.object fields).Quotable)
    (listed : sectionEntries fields key = .ok entries) : ∀ entry ∈ entries, entry.Quotable := by
  unfold sectionEntries Value.field at listed
  cases found : fields.lookup key with
  | none =>
      rw [found] at listed
      cases listed
      exact List.forall_mem_nil _
  | some value =>
      have here : value.Quotable := Value.holds_of_lookup quotable found
      rw [found, Option.getD_some] at listed
      split at listed
      · cases listed
        exact Value.itemsHold_iff.mp here
      · cases listed
        exact List.forall_mem_map.mpr fun _ _ => trivial
      · cases listed
        exact List.forall_mem_map.mpr fun _ _ => trivial
      · cases listed

theorem ofValue_sorted {document : Value} (quotable : document.Quotable) (artifacts : Path) :
    Sorted (Gives ReadableContract ReadableUpdate document)
      (Stumbles LacksContract LacksUpdate document) (Misshapen document)
      (ofValue document artifacts) := by
  cases document with
  | scalar | list =>
      refine (sorted_misshapen (.notObject _) rfl).congr ?_ ?_ ?_
      · simp [Gives]
      · simp [Stumbles]
      · simp [Misshapen, Formless]
  | object fields =>
      have read : ofValue (.object fields) artifacts =
          (sectionEntries fields "contracts" >>= fun contracts =>
            readEach (readDescriptor artifacts) 0 contracts >>= fun descriptors =>
              sectionEntries fields "config_updates" >>= fun entries =>
                readEach readUpdate 0 entries >>= fun updates =>
                  .ok ⟨descriptors, updates⟩) := rfl
      rw [read]
      rcases sectionEntries_cases fields "contracts" with ⟨contracts, listed, proper⟩ |
        ⟨kind, listed, unlisted⟩
      · have described := readEach_sorted (fun index entry member =>
          readDescriptor_sorted artifacts index
            (quotable_of_sectionEntries quotable listed entry member)) 0
        rcases sectionEntries_cases fields "config_updates" with ⟨entries, wired, apt⟩ |
          ⟨kind, wired, inapt⟩
        · have updated := readEach_sorted (fun index entry member =>
            readUpdate_sorted index (quotable_of_sectionEntries quotable wired entry member)) 0
          rw [listed, wired]
          refine (described.bind fun descriptors => updated.bind fun updates =>
            sorted_ok (Plan.mk descriptors updates)).congr ?_ ?_ ?_
          · simp [Gives, listed, wired]
          · simp [Stumbles, listed, wired]
          · simp [Misshapen, Formless, Stumbles, listed, wired, proper, apt]
        · rw [listed, wired]
          refine (described.bind fun descriptors =>
            sorted_misshapen (α := Plan) (.wrongKind kind) rfl).congr ?_ ?_ ?_
          · simp [Gives, listed, wired]
          · simp [Stumbles, listed, wired]
          · simp [Misshapen, Formless, Stumbles, listed, wired, proper, inapt, or_comm]
      · rw [listed]
        refine (sorted_misshapen (.wrongKind kind) rfl).congr ?_ ?_ ?_
        · simp [Gives, listed]
        · simp [Stumbles, listed]
        · simp [Misshapen, Formless, unlisted]

/-- The plan in a file fails in a way that is not expected if its document is misshapen. -/
theorem load_unexpected_iff (files : Files) (path artifacts : Path) :
    Fails Fault.Unexpected (load files path artifacts) ↔ Json.FileTells files path Misshapen := by
  rw [load, Json.FileTells]
  cases files.readText path with
  | error fault => simp [Except.mapError, bind, Except.bind, Fault.Unexpected, Fault.isReported]
  | ok text =>
      simp only [Except.mapError, bind, Except.bind, Except.ok.injEq, exists_eq_left', Json.Tells]
      cases parsed : Json.read text with
      | error fault => cases fault <;> simp [Fault.Unexpected, Fault.isReported]
      | ok document =>
          simp only [Except.ok.injEq, exists_eq_left']
          exact (ofValue_sorted (Json.quotable_of_read parsed) artifacts).unexpected_iff

end Plan
end Rollout
