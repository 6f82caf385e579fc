import Rollout.Files.Edit
import Rollout.Json.Printer
import Rollout.Log
import Rollout.Registry

/-!
# Registry documents

A registry as a JSON document: the chain and the time of writing, and the records by name. The
document is what is kept in a file between runs.
-/

set_option autoImplicit false

namespace Rollout

/-- A scalar as the key of a field. -/
def Scalar.toFieldKey : Scalar → String
  | text value => value
  | scalar => String.ofList (Json.writeScalar scalar)

namespace Registry

def recordValue (record : Record) : Value :=
  .object [("code_id", record.codeId), ("address", record.address)]

/-- The document of a registry, written at a time. -/
def toValue (registry : Registry) (clock : String) : Value :=
  .object
    [("metadata", .object [("chain_id", registry.chainId), ("updated_at", .text clock)]),
      ("contracts",
        .object (registry.records.map fun record =>
          (record.name.toFieldKey, recordValue record)))]

/-- The fields of a value that must be an object. -/
def objectFields (value : Value) : Except Fault (List (String × Value)) :=
  match value with
  | .object fields => .ok fields
  | _ => .error (.notObject value.kindName)

def requiredField (fields : List (String × Value)) (key : String) : Except Fault Value :=
  match fields.lookup key with
  | some value => .ok value
  | none => .error (.missingKey (.text key))

/-- The record of an entry. Its code id is taken for an integer. -/
def readRecord (name : String) (entry : Value) : Except Fault Record :=
  match entry with
  | .object fields => do
      let given ← requiredField fields "code_id"
      let codeId ← given.toInteger.mapError .integer
      let address ← requiredField fields "address"
      return ⟨.text name, .int codeId, address⟩
  | _ => .error (.wrongKind entry.kindName)

def addEntries (registry : Registry) : List (String × Value) → Except Fault Registry
  | [] => .ok registry
  | (name, entry) :: rest => do
      let record ← readRecord name entry
      let extended ← registry.add record
      extended.addEntries rest

/-- The registry of a document. What is missing counts as empty. -/
def ofValue (document : Value) : Except Fault Registry := do
  let fields ← objectFields document
  let metadata ← objectFields (Value.field fields "metadata" (.object []))
  let entries ← objectFields (Value.field fields "contracts" (.object []))
  (empty (Value.fieldOrNull metadata "chain_id")).addEntries entries

/-- The text of the file of a registry. -/
def print (registry : Registry) (clock : String) : String :=
  Json.print .indented (registry.toValue clock)

/-- Writes the file of a registry, making the directories that it lies in. An integer that cannot be
written breaks the file off. -/
def save (registry : Registry) (path : Path) (clock : String) : Files.Edit Unit :=
  if (registry.toValue clock).isQuotable then Files.install path (.text (registry.print clock))
  else do
    Files.install path (.text (Json.printFront .indented (registry.toValue clock)))
    throw (.number .unwritable)

/-- What is logged when a registry was saved. -/
def savedEntry (registry : Registry) (path : Path) : Log.Entry :=
  ⟨.debug, .registry, s!"Saved {registry.records.length} deployment record(s) to {path}"⟩

def readDocument (files : Files) (path : Path) : Except Fault Value := do
  let text ← (files.readText path).mapError .file
  (Json.read text).mapError .json

def load (files : Files) (path : Path) : Except Fault Registry := do
  if ← (files.isThere path).mapError .file then ofValue (← readDocument files path)
  else .error (.registryMissing path)

/-- A registry that belongs to a chain: one that belongs to none is given to it. A refusal calls
its file by the given name. -/
def forChain (registry : Registry) (place chainId : String) : Except Fault Registry :=
  match registry.chainId with
  | .null => .ok { registry with chainId := .text chainId }
  | recorded =>
      if recorded.text? = some chainId then .ok registry
      else .error (.otherChain place recorded chainId)

/-- Reads the file of the registry of a chain, which a text tells the path of, or starts one where
there is no file. -/
def loadOrCreate (files : Files) (path : Path) (place chainId : String) :
    Except Fault Registry :=
  match load files path with
  | .ok registry => registry.forChain place chainId
  | .error (.registryMissing _) => .ok (empty (.text chainId))
  | .error fault => .error fault

end Registry

end Rollout
