import Rollout.Schema.FieldType

/-!
# Message catalogs

The messages that contracts accept: one to instantiate, and the variants to execute, each an
object whose only key names the variant.
-/

set_option autoImplicit false

namespace Rollout.Schema

/-- The messages of one contract. -/
structure ContractSchema where
  name : String
  instantiate : FieldType
  execute : List (String × FieldType)
deriving Repr

/-- The schemas of several contracts on a network whose addresses begin with `account`. -/
structure Catalog where
  account : String
  schemas : List ContractSchema
deriving Repr

/-- The two kinds of messages. -/
inductive MessageKind where
  | instantiate
  | execute
deriving DecidableEq, Repr

/-- The name of a kind, which is also the path of a whole message of it. -/
def MessageKind.name : MessageKind → String
  | instantiate => "instantiate"
  | execute => "execute"

/-- The variant and the body of an execute message, if it has just one. -/
def oneVariant? : Value → Option (String × Value)
  | .object [variant] => some variant
  | _ => none

/-- Everything that is wrong with an execute message of a variant. -/
def ContractSchema.variantProblems (schema : ContractSchema) (account variant : String)
    (body : Value) : Except Wire.Fault (List Problem) :=
  match schema.execute.lookup variant with
  | some type => type.check account variant body
  | none => .ok [⟨MessageKind.execute.name, .unknownVariant variant⟩]

/-- Everything that is wrong with an instantiate message. -/
def ContractSchema.instantiateProblems (schema : ContractSchema) (account : String)
    (message : Value) : Except Wire.Fault (List Problem) :=
  schema.instantiate.check account MessageKind.instantiate.name message

namespace Catalog

/-- The schema of a name. Of several with one name the last counts. -/
def find? (catalog : Catalog) (name : Scalar) : Option ContractSchema :=
  catalog.schemas.reverse.find? fun schema => name = .text schema.name

/-- Whether a contract of a name is in the catalog. -/
def contains (catalog : Catalog) (name : Scalar) : Bool :=
  (catalog.find? name).isSome

end Catalog

end Rollout.Schema
