import Rollout.Fault
import Rollout.Template.Resolution

/-!
# Registries

What the chain assigned to the contracts that were deployed, in the order of deployment. A
registry only grows: a name that is recorded keeps its record.
-/

set_option autoImplicit false

namespace Rollout

/-- What the chain assigned to a contract. -/
structure Record where
  name : Scalar
  codeId : Value
  address : Value
deriving Repr

/-- What a record says about an attribute. -/
def Record.get (record : Record) : Attribute → Value
  | .address => record.address
  | .codeId => record.codeId

/-- A registry: the chain that it belongs to, if that is known, and its records. No two records
have the same name. -/
structure Registry where
  chainId : Value
  records : List Record
  distinct : (records.map fun record => record.name.key).Nodup

namespace Registry

/-- The registry of a chain before anything is deployed. -/
def empty (chainId : Value) : Registry :=
  ⟨chainId, [], List.nodup_nil⟩

def names (registry : Registry) : List Scalar :=
  registry.records.map (·.name)

def find? (registry : Registry) (name : Scalar) : Option Record :=
  registry.records.find? fun record => record.name.sameName name

def contains (registry : Registry) (name : Scalar) : Bool :=
  (registry.find? name).isSome

/-- A name that is not found differs from all recorded names. -/
theorem key_notMem_of_find?_eq_none {registry : Registry} {name : Scalar}
    (absent : registry.find? name = none) :
    name.key ∉ registry.records.map fun record => record.name.key := by
  simp only [List.mem_map, not_exists, not_and]
  intro record member same
  have differs := List.find?_eq_none.mp absent record member
  simp [Scalar.sameName, same] at differs

/-- Adds a record at the end, unless its name is recorded. -/
def add (registry : Registry) (record : Record) : Except Fault Registry :=
  match absent : registry.find? record.name with
  | some existing => .error (.alreadyRecorded record.name existing.address existing.codeId)
  | none =>
      .ok
        { registry with
          records := registry.records ++ [record]
          distinct := by
            rw [List.map_append, List.map_cons, List.map_nil, List.nodup_append]
            refine ⟨registry.distinct, by simp, ?_⟩
            intro key member other single
            rw [List.mem_singleton] at single
            subst single
            exact fun same => key_notMem_of_find?_eq_none absent (same ▸ member) }

/-- The value that a reference stands for. -/
def lookUp (registry : Registry) (reference : Reference) : Option Value :=
  (registry.find? (.text reference.name)).map fun record => record.get reference.asks

/-- The value of a template. Failures name the contract that the template belongs to. -/
def resolve (registry : Registry) (template : Template) (stand : Option String)
    (contract : Option Scalar) : Except Fault Value :=
  (template.resolve registry.lookUp stand).mapError fun marker =>
    .unresolved marker.name contract

/-- The literal of a registry: its chain and its names. -/
def literal (registry : Registry) : String :=
  "DeploymentRegistry(chain_id=" ++ registry.chainId.literal ++ ", contracts=" ++
    (Value.list (registry.names.map .scalar)).literal ++ ")"

end Registry

end Rollout
