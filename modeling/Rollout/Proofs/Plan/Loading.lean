import Rollout.Proofs.Files.Writing
import Rollout.Proofs.Json.Ascii
import Rollout.Proofs.Json.Reading
import Rollout.Proofs.Plan.Shape

/-!
# Plan files

What a plan file is read as, and what it is refused for. Only what is missing from an entry is
looked for: an entry whose parts have other kinds than they should is read as it stands, or it fails
in a way that says nothing of the plan.
-/

set_option autoImplicit false

namespace Rollout.Plan

open Rollout.Computation (Fails)
open Rollout.Json (Tells FileTells)

/-- Contracts are named and updates are aimed at by texts, and messages are objects. -/
structure Typed (plan : Plan) : Prop where
  names : ∀ descriptor ∈ plan.descriptors, ∃ name, descriptor.name = .text name
  messages : ∀ descriptor ∈ plan.descriptors, ∃ fields, descriptor.message = .object fields
  targets : ∀ update ∈ plan.updates, ∃ target, update.target = .text target
  bodies : ∀ update ∈ plan.updates, ∃ fields, update.message = .object fields

/-- A contract with a text for a name and an object for a message. -/
def SoundContract : Value → Prop :=
  GivesContract (fun name => ∃ text, name = .text text) Template.IsBody

def SoundUpdate : Value → Prop :=
  GivesUpdate (fun target => ∃ text, target = .text text) Template.IsBody

/-- A descriptor has the name of an entry, and its message with the markers read. -/
def TakesContract (entry : Value) (descriptor : Descriptor) : Prop :=
  ∃ fields message, entry = .object fields ∧
    fields.lookup "name" = some (.scalar descriptor.name) ∧ Placed fields ∧
    fields.lookup "init_msg" = some message ∧ Template.decode message = .ok descriptor.message

def TakesUpdate (entry : Value) (update : ConfigUpdate) : Prop :=
  ∃ fields message, entry = .object fields ∧
    fields.lookup "target" = some update.target ∧
    fields.lookup "msg" = some message ∧ Template.decode message = .ok update.message

/-- A plan takes over the entries of a document one by one. -/
def Takes (document : Value) (plan : Plan) : Prop :=
  ∃ fields contracts updates, document = .object fields ∧
    sectionEntries fields "contracts" = .ok contracts ∧
    sectionEntries fields "config_updates" = .ok updates ∧
    List.Forall₂ TakesContract contracts plan.descriptors ∧
    List.Forall₂ TakesUpdate updates plan.updates

section

variable {artifacts : Path} {index : Nat} {entry document : Value} {descriptor : Descriptor}
  {update : ConfigUpdate} {plan : Plan}

private theorem entryFields_eq_ok {fields : List (String × Value)}
    (given : entryFields entry = .ok fields) : entry = .object fields := by
  cases entry with
  | scalar | list => cases given
  | object => exact congrArg Value.object (Except.ok.inj given)

private theorem entryField_eq_ok {kind : PlanSection} {fields : List (String × Value)}
    {key : String} {value : Value} (given : entryField kind index fields key = .ok value) :
    fields.lookup key = some value := by
  unfold entryField at given
  split at given
  · next found => exact found.trans (congrArg some (Except.ok.inj given))
  · cases given

private theorem takesContract_of_readDescriptor
    (read : readDescriptor artifacts index entry = .ok descriptor) :
    TakesContract entry descriptor := by
  obtain ⟨fields, top, afterFields⟩ := Computation.bind_eq_ok read
  obtain ⟨named, foundName, afterNamed⟩ := Computation.bind_eq_ok afterFields
  obtain ⟨name, keyed, afterName⟩ := Computation.bind_eq_ok afterNamed
  obtain ⟨bytecode, located, afterBytecode⟩ := Computation.bind_eq_ok afterName
  obtain ⟨message, foundMessage, afterMessage⟩ := Computation.bind_eq_ok afterBytecode
  obtain ⟨template, decoded, same⟩ := Computation.bind_eq_ok afterMessage
  cases same
  obtain rfl : named = .scalar name := by
    cases named with
    | scalar => exact congrArg Value.scalar (Except.ok.inj keyed)
    | list | object => cases keyed
  have placed : Placed fields := by
    by_contra displaced
    obtain ⟨kind, refused⟩ := artifactPath_of_not_placed displaced artifacts name
    rw [refused] at located
    cases located
  exact ⟨fields, message, entryFields_eq_ok top, entryField_eq_ok foundName, placed,
    entryField_eq_ok foundMessage, Computation.mapError_eq_ok.mp decoded⟩

private theorem takesUpdate_of_readUpdate (read : readUpdate index entry = .ok update) :
    TakesUpdate entry update := by
  obtain ⟨fields, top, afterFields⟩ := Computation.bind_eq_ok read
  obtain ⟨target, foundTarget, afterTarget⟩ := Computation.bind_eq_ok afterFields
  obtain ⟨message, foundMessage, afterMessage⟩ := Computation.bind_eq_ok afterTarget
  obtain ⟨template, decoded, same⟩ := Computation.bind_eq_ok afterMessage
  cases same
  exact ⟨fields, message, entryFields_eq_ok top, entryField_eq_ok foundTarget,
    entryField_eq_ok foundMessage, Computation.mapError_eq_ok.mp decoded⟩

private theorem forall₂_of_readEach {α : Type} {read : Nat → Value → Except Fault α}
    {relation : Value → α → Prop}
    (each : ∀ index entry value, read index entry = .ok value → relation entry value)
    {entries : List Value} {values : List α} (given : readEach read index entries = .ok values) :
    List.Forall₂ relation entries values := by
  induction entries generalizing index values with
  | nil =>
      cases given
      exact .nil
  | cons entry rest ih =>
      obtain ⟨first, here, continued⟩ := Computation.bind_eq_ok given
      obtain ⟨others, behind, same⟩ := Computation.bind_eq_ok continued
      cases same
      exact .cons (each index entry first here) (ih behind)

private theorem takes_of_ofValue (given : ofValue document artifacts = .ok plan) :
    Takes document plan := by
  obtain ⟨fields, top, afterFields⟩ := Computation.bind_eq_ok given
  obtain ⟨contracts, listed, afterContracts⟩ := Computation.bind_eq_ok afterFields
  obtain ⟨descriptors, described, afterDescriptors⟩ := Computation.bind_eq_ok afterContracts
  obtain ⟨updates, wired, afterUpdates⟩ := Computation.bind_eq_ok afterDescriptors
  obtain ⟨configured, updated, same⟩ := Computation.bind_eq_ok afterUpdates
  cases same
  refine ⟨fields, contracts, updates, ?_, listed, wired, ?_, ?_⟩
  · cases document with
    | scalar | list => cases top
    | object => exact congrArg Value.object (Except.ok.inj top)
  · apply forall₂_of_readEach _ described
    intro index entry descriptor read
    exact takesContract_of_readDescriptor read
  · apply forall₂_of_readEach _ updated
    intro index entry update read
    exact takesUpdate_of_readUpdate read

/-!
## Kinds
-/

theorem isBody_iff {message : Value} {template : Template}
    (decoded : Template.decode message = .ok template) :
    Template.IsBody message ↔ ∃ fields, template = .object fields := by
  simp [← Template.decode_object_iff, decoded]

theorem soundContract_iff (takes : TakesContract entry descriptor) :
    SoundContract entry ↔
      (∃ name, descriptor.name = .text name) ∧ ∃ fields, descriptor.message = .object fields := by
  obtain ⟨fields, message, rfl, named, placed, given, decoded⟩ := takes
  rw [← isBody_iff decoded]
  constructor
  · rintro ⟨_, name, _, ⟨⟩, namedAgain, textual, _, givenAgain, sound⟩
    rw [named] at namedAgain
    rw [given] at givenAgain
    cases namedAgain
    cases givenAgain
    exact ⟨textual, sound⟩
  · rintro ⟨textual, sound⟩
    exact ⟨fields, descriptor.name, message, rfl, named, textual, placed, given, sound⟩

theorem soundUpdate_iff (takes : TakesUpdate entry update) :
    SoundUpdate entry ↔
      (∃ target, update.target = .text target) ∧ ∃ fields, update.message = .object fields := by
  obtain ⟨fields, message, rfl, targeted, given, decoded⟩ := takes
  rw [← isBody_iff decoded]
  constructor
  · rintro ⟨_, target, _, ⟨⟩, targetedAgain, textual, givenAgain, sound⟩
    rw [targeted] at targetedAgain
    rw [given] at givenAgain
    cases targetedAgain
    cases givenAgain
    exact ⟨textual, sound⟩
  · rintro ⟨textual, sound⟩
    exact ⟨fields, update.target, message, rfl, targeted, textual, given, sound⟩

theorem typed_iff (takes : Takes document plan) :
    plan.Typed ↔ Gives SoundContract SoundUpdate document := by
  obtain ⟨fields, contracts, updates, rfl, listed, wired, described, updated⟩ := takes
  have named := Computation.forall_mem_iff described fun _ _ => soundContract_iff
  have aimed := Computation.forall_mem_iff updated fun _ _ => soundUpdate_iff
  constructor
  · rintro ⟨names, messages, targets, bodies⟩
    refine ⟨fields, contracts, updates, rfl, listed, wired, named.mpr ?_, aimed.mpr ?_⟩
    · exact fun descriptor member => ⟨names descriptor member, messages descriptor member⟩
    · exact fun update member => ⟨targets update member, bodies update member⟩
  · rintro ⟨_, _, _, ⟨⟩, listedAgain, wiredAgain, contractsSound, updatesSound⟩
    rw [listed] at listedAgain
    rw [wired] at wiredAgain
    cases listedAgain
    cases wiredAgain
    have names := named.mp contractsSound
    have targets := aimed.mp updatesSound
    exact ⟨fun descriptor member => (names descriptor member).1,
      fun descriptor member => (names descriptor member).2,
      fun update member => (targets update member).1,
      fun update member => (targets update member).2⟩

private theorem wellMarked_of_isBody {message : Value} (body : Template.IsBody message) :
    Template.WellMarked message := by
  obtain ⟨_, decoded⟩ := (Template.decode_object_iff message).mpr body
  exact (Template.decode_isOk_iff message).mp ⟨_, decoded⟩

private theorem readable_of_sound (sound : Gives SoundContract SoundUpdate document) :
    Gives ReadableContract ReadableUpdate document := by
  obtain ⟨fields, contracts, updates, rfl, listed, wired, described, updated⟩ := sound
  refine ⟨fields, contracts, updates, rfl, listed, wired, ?_, ?_⟩
  · intro entry member
    obtain ⟨inner, name, message, top, named, _, placed, given, body⟩ := described entry member
    exact ⟨inner, name, message, top, named, trivial, placed, given, wellMarked_of_isBody body⟩
  · intro entry member
    obtain ⟨inner, target, message, top, targeted, _, given, body⟩ := updated entry member
    exact ⟨inner, target, message, top, targeted, trivial, given, wellMarked_of_isBody body⟩

theorem ofValue_typed_iff (quotable : document.Quotable) (artifacts : Path) :
    (∃ plan, ofValue document artifacts = .ok plan ∧ plan.Typed) ↔
      Gives SoundContract SoundUpdate document := by
  constructor
  · rintro ⟨plan, given, typed⟩
    exact (typed_iff (takes_of_ofValue given)).mp typed
  · intro sound
    obtain ⟨plan, given⟩ :=
      (ofValue_sorted quotable artifacts).ofReadable (readable_of_sound sound)
    exact ⟨plan, given, (typed_iff (takes_of_ofValue given)).mpr sound⟩

end

/-!
## Files
-/

/-- The text of a file has a flaw, or its document lacks something of a plan at the first entry that
cannot be read. -/
def Flawed (text : String) : Prop :=
  (∃ flaw line column position, Json.read text = .error (.flaw flaw line column position)) ∨
    Tells text (Stumbles LacksContract LacksUpdate)

private theorem load_of_readText {files : Files} {path artifacts : Path} {text : String}
    (readable : files.readText path = .ok text) :
    load files path artifacts =
      match Json.read text with
      | .ok document => ofValue document artifacts
      | .error (.number fault) => .error (.json (.number fault))
      | .error fault => .error (.planDocument path fault) := by
  rw [load, readable]
  rfl

/-- What comes of a file. It is refused as a plan for a flaw of its text and for what its first bad
entry lacks, and a plan of the right kinds is returned for documents whose entries are sound. Plans
of other kinds are returned as well, and a document, a section or an entry of an unexpected shape
fails otherwise, as do numerals of too many digits and files that cannot be read. Halves of
surrogate pairs are replaced when the document is read. -/
theorem load_judges (files : Files) (path artifacts : Path) :
    (Fails Fault.ConcernsPlan (load files path artifacts) ↔
        ∃ text, files.readText path = .ok text ∧ Flawed text) ∧
      ((∃ plan, load files path artifacts = .ok plan ∧ plan.Typed) ↔
        FileTells files path (Gives SoundContract SoundUpdate)) ∧
      (∀ plan, load files path artifacts = .ok plan → FileTells files path (Takes · plan)) ∧
      ((∃ plan, load files path artifacts = .ok plan) ↔
        FileTells files path (Gives ReadableContract ReadableUpdate)) ∧
      (Fails (fun fault => ¬fault.ConcernsPlan) (load files path artifacts) ↔
        (∃ fault, files.readText path = .error fault) ∨
          (∃ text, files.readText path = .ok text ∧
            ∃ fault, Json.read text = .error (.number fault)) ∨
          FileTells files path Misshapen) := by
  unfold FileTells
  cases found : files.readText path with
  | error fault =>
      have failed : load files path artifacts = .error (.file fault) := by
        rw [load, found]
        rfl
      simp [failed, Fault.ConcernsPlan]
  | ok text =>
      rw [load_of_readText found]
      unfold Flawed Tells
      cases parsed : Json.read text with
      | error fault =>
          cases fault with
          | flaw | number => simp [parsed, Fault.ConcernsPlan]
      | ok document =>
          have quotable := Json.quotable_of_read parsed
          have sorted := ofValue_sorted quotable artifacts
          simp only [parsed, reduceCtorEq, exists_false, false_or, Except.ok.injEq,
            exists_eq_left']
          refine ⟨sorted.concernsPlan_iff, ofValue_typed_iff quotable artifacts, ?_, sorted.isOk_iff,
            sorted.foreign_iff⟩
          intro plan given
          exact takes_of_ofValue given

/-!
## Documents of other kinds
-/

def planFile : Path := ⟨"/", ["plan.json"]⟩

def filesWith (text : String) : Files :=
  ⟨⟨"/", []⟩, [(planFile, .text text)]⟩

/-- A document whose only contract has null for a name. -/
def namelessDocument : Value :=
  .object [("contracts", .list [.object [("name", .null), ("init_msg", .object [])]])]

def namelessText : String :=
  Json.print .compact namelessDocument

private theorem namelessDocument_kept : Json.Kept namelessDocument := by
  simp [namelessDocument, Json.Kept, Json.KeptItems, Json.KeptFields, Json.KeptScalar]

private theorem namelessText_readable :
    (filesWith namelessText).readText planFile = .ok namelessText :=
  Files.readText_of_find rfl (Json.carriageReturn_notMem_print Json.plain_compact _)

theorem namelessText_judged :
    (∃ plan, load (filesWith namelessText) planFile ⟨"/", []⟩ = .ok plan) ∧
      ¬∃ plan, load (filesWith namelessText) planFile ⟨"/", []⟩ = .ok plan ∧ plan.Typed := by
  obtain ⟨_, typed, _, returned, _⟩ := load_judges (filesWith namelessText) planFile ⟨"/", []⟩
  have parsed : Json.read namelessText = .ok namelessDocument :=
    Json.read_print Json.regular_compact namelessDocument_kept
  have contract : sectionEntries [("contracts", .list
      [.object [("name", .null), ("init_msg", .object [])]])] "contracts" =
        .ok [.object [("name", .null), ("init_msg", .object [])]] := rfl
  rw [typed, returned]
  constructor
  · refine ⟨namelessText, namelessText_readable, namelessDocument, parsed, _, _, [], rfl, contract,
      rfl, ?_, List.forall_mem_nil _⟩
    intro entry member
    obtain rfl := List.mem_singleton.mp member
    refine ⟨_, _, _, rfl, rfl, trivial, ?_, rfl, trivial⟩
    rintro _ ⟨⟩
  · rintro ⟨text, found, document, parsedAgain, fields, contracts, _, rfl, listed, _, sound, _⟩
    rw [namelessText_readable] at found
    cases found
    rw [parsed] at parsedAgain
    cases parsedAgain
    rw [contract] at listed
    cases listed
    obtain ⟨_, _, _, ⟨⟩, ⟨⟩, ⟨_, ⟨⟩⟩, _⟩ := sound _ List.mem_cons_self

theorem listText_escapes :
    (filesWith "[]").readText planFile = .ok "[]" ∧
      ¬(Fails Fault.ConcernsPlan (load (filesWith "[]") planFile ⟨"/", []⟩) ∨
        ∃ plan, load (filesWith "[]") planFile ⟨"/", []⟩ = .ok plan ∧ plan.Typed) := by
  have loaded : load (filesWith "[]") planFile ⟨"/", []⟩ = .error (.notObject "list") := rfl
  refine ⟨rfl, ?_⟩
  rw [loaded]
  rintro (⟨_, ⟨⟩, concerns⟩ | ⟨_, ⟨⟩, _⟩)
  exact concerns

end Rollout.Plan
