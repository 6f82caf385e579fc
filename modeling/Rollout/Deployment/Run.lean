import Rollout.Deployment.Contract
import Rollout.Registry.Document

/-!
# Deployment runs

The contracts of a plan one after another, each with its references resolved against those
before it. Recorded contracts are skipped, so that a run can take up where another halted, and
the registry is kept after every contract.
-/

set_option autoImplicit false

namespace Rollout.Deployment

variable {σ : Type}

/-- Why a run ends early. A resumable halt names the contract that was being deployed and the
registry as far as it got; the others tell the fault alone. -/
inductive Halt where
  | bare (fault : Fault)
  | resumable (fault : Fault) (contract : Scalar) (registry : Registry)

def Halt.fault : Halt → Fault
  | bare fault | resumable fault _ _ => fault

/-- The first name that occurs again after another of the same name, as it is written there. -/
def repeatedName? (seen : List Scalar) : List Scalar → Option Scalar
  | [] => none
  | name :: rest =>
      if seen.contains name.key then some name else repeatedName? (name.key :: seen) rest

def sayOfRun (level : Log.Level) (text : String) : Change σ Unit :=
  Session.report ⟨level, .run, text⟩

/-- Deploys a contract with the references of its message resolved. Placeholders stand for the
address of the client. -/
def deployResolved (client : Client σ) (catalog : Schema.Catalog) (registry : Registry)
    (descriptor : Descriptor) : Action σ Record := do
  let message ←
    registry.resolve descriptor.message (some client.address) (some descriptor.name)
  deploy client catalog { descriptor with message := .ofValue message }

def keep (registry : Registry) (path : Path) : Action σ Unit := do
  Session.edit (registry.save path (← get).clock)
  ExceptT.lift (Session.report (registry.savedEntry path))

/-- A fault that is none of a deployment aborts the contract that it hits. -/
def asDeploymentFault (contract : Scalar) (fault : Fault) : Fault :=
  if fault.isDeployment then fault else .aborted contract fault

/-- Deploys one contract and records it, or skips it. -/
def step (client : Client σ) (catalog : Schema.Catalog) (path : Option Path)
    (registry : Registry) (descriptor : Descriptor) :
    Change σ (Registry × Except Halt Unit) := do
  match registry.find? descriptor.name with
  | some record =>
      sayOfRun .info
        s!"Skipping {descriptor.name.display}, already deployed at {record.address.display}"
      return (registry, .ok ())
  | none =>
      match ← (deployResolved client catalog registry descriptor).run with
      | .error fault =>
          sayOfRun .error s!"Deployment halted at {descriptor.name.display}: {fault.message}"
          let reported := asDeploymentFault descriptor.name fault
          return (registry, .error (.resumable reported descriptor.name registry))
      | .ok record =>
          match registry.add record, path with
          | .error fault, _ => return (registry, .error (.bare fault))
          | .ok extended, none => return (extended, .ok ())
          | .ok extended, some path =>
              match ← (keep extended path).run with
              | .ok () => return (extended, .ok ())
              | .error fault => return (extended, .error (.bare fault))

/-- Deploys contracts in order, up to the first that fails. -/
def advance (client : Client σ) (catalog : Schema.Catalog) (path : Option Path) :
    Registry → List Descriptor → Change σ (Registry × Except Halt Unit)
  | registry, [] => return (registry, .ok ())
  | registry, descriptor :: rest => do
      match ← step client catalog path registry descriptor with
      | (extended, .ok ()) => advance client catalog path extended rest
      | halted => return halted

/-- Runs a deployment: the registry as far as it got, and the halt if it did not complete. Nothing
is sent if two contracts have the same name. -/
def run (client : Client σ) (catalog : Schema.Catalog) (path : Option Path)
    (registry : Registry) (descriptors : List Descriptor) :
    Change σ (Registry × Except Halt Unit) := do
  match repeatedName? [] (descriptors.map (·.name)) with
  | some name => return (registry, .error (.bare (.duplicateContract name)))
  | none =>
      match ← advance client catalog path registry descriptors with
      | (extended, .ok ()) =>
          let count := extended.records.length
          sayOfRun .info s!"Deployment complete: {count} contract(s) recorded"
          return (extended, .ok ())
      | halted => return halted

end Rollout.Deployment
