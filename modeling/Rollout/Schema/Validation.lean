import Rollout.Fault

/-!
# Validation of messages

Messages are checked against a catalog before they are sent. Contracts that the catalog does not
know are not checked.
-/

set_option autoImplicit false

namespace Rollout.Schema.Catalog

/-- The schema of a contract that must be in the catalog. -/
def schema (catalog : Catalog) (name : Scalar) : Except Fault ContractSchema :=
  match catalog.find? name with
  | some schema => .ok schema
  | none => .error (.missingKey name)

/-- Everything that is wrong with the instantiate message of a contract in the catalog. -/
def instantiateProblems (catalog : Catalog) (name : Scalar) (message : Value) :
    Except Fault (List Problem) := do
  let schema ← catalog.schema name
  (schema.instantiateProblems catalog.account message).mapError .wire

/-- Everything that is wrong with an execute message of a contract in the catalog. That it has
one variant is looked at first. -/
def executeProblems (catalog : Catalog) (name : Scalar) (message : Value) :
    Except Fault (List Problem) :=
  match oneVariant? message with
  | none => (refuseForm .notOneVariant MessageKind.execute.name message).mapError .wire
  | some (variant, body) => do
      let schema ← catalog.schema name
      (schema.variantProblems catalog.account variant body).mapError .wire

/-- Everything that is wrong with a message of a contract in the catalog. -/
def problems (catalog : Catalog) : MessageKind → Scalar → Value → Except Fault (List Problem)
  | .instantiate => catalog.instantiateProblems
  | .execute => catalog.executeProblems

/-- Accepts a message without problems, and any message of a contract that is not in the
catalog. -/
def validate (catalog : Catalog) (kind : MessageKind) (name message : Value) :
    Except Fault Unit := do
  let key ← name.toKey
  if catalog.contains key then
    let found ← catalog.problems kind key message
    if found.isEmpty then .ok () else .error (.invalidMessage key kind found)
  else .ok ()

end Rollout.Schema.Catalog
