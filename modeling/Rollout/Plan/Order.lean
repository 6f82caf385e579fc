import Rollout.Registry

/-!
# Order of plans

Before anything is sent, every reference is checked to name a contract that is recorded or that
comes earlier in the plan.
-/

set_option autoImplicit false

namespace Rollout.Plan

/-- Checks that references name available contracts, on behalf of a contract. -/
def checkReferences (available : List Scalar) (contract : Scalar) :
    List Reference → Except Fault Unit
  | [] => .ok ()
  | reference :: rest =>
      if available.contains (Scalar.text reference.name).key then
        checkReferences available contract rest
      else .error (.unresolved reference.name (some contract))

/-- Checks the contracts of a plan in order. Each is available to those after it. -/
def checkFrom (available : List Scalar) : List Descriptor → Except Fault Unit
  | [] => .ok ()
  | descriptor :: rest => do
      checkReferences available descriptor.name descriptor.message.references
      checkFrom (descriptor.name.key :: available) rest

/-- Checks the contracts of a plan against the names of a registry. -/
def checkOrder (descriptors : List Descriptor) (recorded : List Scalar) : Except Fault Unit :=
  checkFrom (recorded.map Scalar.key) descriptors

end Rollout.Plan
