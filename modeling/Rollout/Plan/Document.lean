import Rollout.Plan.Standard
import Rollout.Registry.Document

/-!
# Plan documents

A plan as a JSON document: a list of contracts and a list of updates, both of which may be
missing. Markers stand in the messages. The path of an artifact is written by its file name.
-/

set_option autoImplicit false

namespace Rollout.Plan

def entryFields (entry : Value) : Except Fault (List (String × Value)) :=
  match entry with
  | .object fields => .ok fields
  | _ => .error (.wrongKind entry.kindName)

def entryField (kind : PlanSection) (index : Nat) (fields : List (String × Value))
    (key : String) : Except Fault Value :=
  match fields.lookup key with
  | some value => .ok value
  | none => .error (.planEntry kind index key (.object fields))

/-- The path of an artifact in a directory. -/
def artifactPath (artifacts : Path) (artifact : Value) : Except Fault Path :=
  match artifact with
  | .text text => .ok (artifacts.child text)
  | _ => .error (.wrongKind artifact.kindName)

def readDescriptor (artifacts : Path) (index : Nat) (entry : Value) :
    Except Fault Descriptor := do
  let fields ← entryFields entry
  let name ← (← entryField .contracts index fields "name").toKey
  let bytecode ←
    artifactPath artifacts (Value.field fields "wasm" (.text (artifactName name)))
  let message ← entryField .contracts index fields "init_msg"
  let template ← (Template.decode message).mapError .marker
  return {
    name, bytecode
    message := template
    admin := Value.fieldOrNull fields "admin"
    coins := Value.fieldOrNull fields "init_coins"
    schema := Value.fieldOrNull fields "schema" }

def readUpdate (index : Nat) (entry : Value) : Except Fault ConfigUpdate := do
  let fields ← entryFields entry
  let target ← entryField .updates index fields "target"
  let message ← entryField .updates index fields "msg"
  let template ← (Template.decode message).mapError .marker
  return { target, message := template, schema := Value.fieldOrNull fields "schema" }

/-- The entries of a section. The keys of an object and the characters of a text count as
entries, which are then refused. -/
def sectionEntries (fields : List (String × Value)) (key : String) :
    Except Fault (List Value) :=
  match Value.field fields key (.list []) with
  | .list items => .ok items
  | .object entries => .ok (entries.map fun entry => .text entry.1)
  | .text text => .ok (text.toList.map fun char => .text (String.ofList [char]))
  | other => .error (.wrongKind other.kindName)

def readEach {α : Type} (read : Nat → Value → Except Fault α) :
    Nat → List Value → Except Fault (List α)
  | _, [] => .ok []
  | index, entry :: rest => do
      let first ← read index entry
      let others ← readEach read (index + 1) rest
      return first :: others

/-- The plan of a document, with artifacts in a directory. -/
def ofValue (document : Value) (artifacts : Path) : Except Fault Plan := do
  let fields ← Registry.objectFields document
  let contracts ← sectionEntries fields "contracts"
  let descriptors ← readEach (readDescriptor artifacts) 0 contracts
  let entries ← sectionEntries fields "config_updates"
  let updates ← readEach readUpdate 0 entries
  return ⟨descriptors, updates⟩

/-- Reads a plan file. A flaw of its text is a fault of the plan. -/
def load (files : Files) (path artifacts : Path) : Except Fault Plan := do
  let text ← (files.readText path).mapError .file
  match Json.read text with
  | .ok document => ofValue document artifacts
  | .error (.number fault) => .error (.json (.number fault))
  | .error fault => .error (.planDocument path fault)

def presentField (key : String) (value : Value) : List (String × Value) :=
  if value.isNull then [] else [(key, value)]

def descriptorValue (descriptor : Descriptor) : Value :=
  .object
    ([("name", .scalar descriptor.name), ("wasm", .text descriptor.bytecode.name),
        ("init_msg", descriptor.message.encode)] ++
      presentField "admin" descriptor.admin ++ presentField "init_coins" descriptor.coins ++
      presentField "schema" descriptor.schema)

def updateValue (update : ConfigUpdate) : Value :=
  .object
    ([("target", update.target), ("msg", update.message.encode)] ++
      presentField "schema" update.schema)

def toValue (plan : Plan) : Value :=
  .object
    [("contracts", .list (plan.descriptors.map descriptorValue)),
      ("config_updates", .list (plan.updates.map updateValue))]

end Rollout.Plan
