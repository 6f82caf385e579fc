import Rollout.Schema.Kind

/-!
# Field types

The language of message schemas: wire values, lists of one type, and structures of required and
optional fields that admit no others. Checking lists every violation with the place it is at.
-/

set_option autoImplicit false

namespace Rollout.Schema

/-- The type of a field. -/
inductive FieldType where
  | leaf (kind : Kind)
  | list (item : FieldType)
  | struct (required optional : List (String × FieldType))
deriving Repr

/-- A way to violate a schema. Values are quoted by their literals. -/
inductive Violation where
  | mismatch (mismatch : Mismatch)
  | notList (literal : String)
  | notObject (literal : String)
  | missing
  | unknownField
  | notOneVariant (literal : String)
  | unknownVariant (name : String)
deriving DecidableEq, Repr

def Violation.message : Violation → String
  | mismatch found => found.message
  | notList literal => s!"expected a list, got {literal}"
  | notObject literal => s!"expected an object, got {literal}"
  | missing => "required field missing"
  | unknownField => "unknown field"
  | notOneVariant literal => s!"expected exactly one variant, got {literal}"
  | unknownVariant name => s!"unknown variant '{name}'"

/-- A violation and the path to it from the top of the message. -/
structure Problem where
  path : String
  violation : Violation
deriving DecidableEq, Repr

def Problem.message (problem : Problem) : String :=
  s!"{problem.path}: {problem.violation.message}"

/-- The path to an item of a list. -/
def itemPath (path : String) (index : Nat) : String :=
  s!"{path}[{index}]"

/-- The path to a field of an object. -/
def fieldPath (path key : String) : String :=
  s!"{path}.{key}"

/-- Refuses a value that has not the form which a whole type asks for. It has to be quoted for
that. -/
def refuseForm (violation : String → Violation) (path : String) (value : Value) :
    Except Wire.Fault (List Problem) := do
  let literal ← value.quote.mapError .number
  return [⟨path, violation literal⟩]

/-- The fields that a structure does not know. -/
def unknownFields (required optional : List (String × FieldType)) (path : String)
    (fields : List (String × Value)) : List Problem :=
  (fields.filter fun field =>
      (required.lookup field.1).isNone && (optional.lookup field.1).isNone).map
    fun field => ⟨fieldPath path field.1, .unknownField⟩

/-- Checks each item of a list, from the given index on. -/
def checkEach (checkItem : String → Value → Except Wire.Fault (List Problem)) (path : String) :
    Nat → List Value → Except Wire.Fault (List Problem)
  | _, [] => .ok []
  | index, item :: rest => do
      let first ← checkItem (itemPath path index) item
      let others ← checkEach checkItem path (index + 1) rest
      return first ++ others

namespace FieldType

mutual

/-- Everything that is wrong with a value, in the order of the schema and then of the unknown
fields, unless a part cannot be judged. -/
def check (account : String) : FieldType → String → Value → Except Wire.Fault (List Problem)
  | leaf kind, path, value => do
      match ← kind.check account value with
      | some mismatch => return [⟨path, .mismatch mismatch⟩]
      | none => return []
  | list item, path, value =>
      match value with
      | .list items => checkEach (item.check account) path 0 items
      | _ => refuseForm .notList path value
  | struct required optional, path, value =>
      match value with
      | .object fields => do
          let missingOrWrong ← checkRequired account fields path required
          let wrong ← checkOptional account fields path optional
          return missingOrWrong ++ wrong ++ unknownFields required optional path fields
      | _ => refuseForm .notObject path value
termination_by structural type => type

def checkRequired (account : String) (fields : List (String × Value)) (path : String) :
    List (String × FieldType) → Except Wire.Fault (List Problem)
  | [] => .ok []
  | (key, type) :: rest => do
      let first ←
        match fields.lookup key with
        | none => .ok [⟨fieldPath path key, .missing⟩]
        | some value => type.check account (fieldPath path key) value
      let others ← checkRequired account fields path rest
      return first ++ others
termination_by structural types => types

/-- What is wrong with the optional fields, which may be missing or null. -/
def checkOptional (account : String) (fields : List (String × Value)) (path : String) :
    List (String × FieldType) → Except Wire.Fault (List Problem)
  | [] => .ok []
  | (key, type) :: rest => do
      let first ←
        match fields.lookup key with
        | none | some .null => .ok []
        | some value => type.check account (fieldPath path key) value
      let others ← checkOptional account fields path rest
      return first ++ others
termination_by structural types => types

end

end FieldType

end Rollout.Schema
