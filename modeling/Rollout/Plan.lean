import Rollout.Chain.Outcome
import Rollout.Path
import Rollout.Template

/-!
# Deployment plans

The contracts to deploy, in their order, and the updates that wire them together afterwards.
-/

set_option autoImplicit false

namespace Rollout

/-- A contract to upload and instantiate. -/
structure Descriptor where
  name : Scalar
  bytecode : Path
  message : Template
  admin : Value
  coins : Value
  schema : Value
deriving Repr

/-- The name of the schema that the message of a contract is checked against: its own name
unless another is given. -/
def Descriptor.schemaName (descriptor : Descriptor) : Value :=
  descriptor.schema.orElse (.scalar descriptor.name)

/-- A message to send to a deployed contract. -/
structure ConfigUpdate where
  target : Value
  message : Template
  schema : Value
deriving Repr

/-- The name of the schema that an update is checked against: its target's unless another is
given. -/
def ConfigUpdate.schemaName (update : ConfigUpdate) : Value :=
  update.schema.orElse update.target

/-- An update that was sent, with its outcome. -/
structure UpdateResult where
  update : ConfigUpdate
  outcome : Chain.Outcome
deriving Repr

/-- A plan. -/
structure Plan where
  descriptors : List Descriptor
  updates : List ConfigUpdate
deriving Repr

end Rollout
