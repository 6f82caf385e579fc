import Rollout.Chain.Coins
import Rollout.Chain.Failure
import Rollout.Files
import Rollout.Json.Reader
import Rollout.Network.Settings
import Rollout.Plan
import Rollout.Schema.Catalog
import Rollout.Template.Marker

/-!
# Faults

Everything that makes an operation fail, as causes. Some are faults of a deployment, about which
an operator can do something; the others are values of the wrong kind, broken files and failures
from outside.
-/

set_option autoImplicit false

namespace Rollout

open Rollout.Chain

/-- The two lists of a plan document. -/
inductive PlanSection where
  | contracts
  | updates
deriving DecidableEq, Repr

/-- What an entry of a section is called. -/
def PlanSection.entryName : PlanSection → String
  | contracts => "Contract entry"
  | updates => "Config update"

/-- Why the answer to a broadcast cannot be read. -/
inductive BroadcastFault where
  | noLogs
  | noLog (index : Nat)
  | noEntry (key : String)
deriving DecidableEq, Repr

def BroadcastFault.message : BroadcastFault → String
  | noLogs => "could not parse code id -- tx logs are empty."
  | noLog _ => "list index out of range"
  | noEntry key => Text.quoted key

/-- Why an operation fails. -/
inductive Fault where
  | unresolved (reference : String) (contract : Option Scalar)
  | unknownTarget (target : Scalar)
  | invalidMessage (schema : Scalar) (kind : Schema.MessageKind) (problems : List Schema.Problem)
  | alreadyRecorded (name : Scalar) (address codeId : Value)
  | otherChain (place : String) (recorded : Value) (wanted : String)
  | duplicateContract (name : Scalar)
  | planDocument (path : Path) (fault : Json.Fault)
  | planEntry (kind : PlanSection) (index : Nat) (key : String) (entry : Value)
  | marker (fault : MarkerFault)
  | bytecodeMissing (contract : Scalar) (path : Path)
  | bytecodeLocked (contract : Scalar) (path : Path) (reason : String)
  | registryMissing (path : Path)
  | uploadFailed (contract : Scalar) (outcome : Outcome)
  | instantiationFailed (contract : Scalar) (outcome : Outcome) (codeId : Value)
  | executeFailed (target : Value) (outcome : Outcome)
  | incomplete (failures : List UpdateResult)
  | aborted (contract : Scalar) (cause : Fault)
  | referenceAttribute (asked : Value)
  | unknownKind (name : Value)
  | wire (fault : Wire.Fault)
  | integer (fault : IntegerFault)
  | coins (fault : CoinsFault)
  | json (fault : Json.Fault)
  | file (fault : FileFault)
  | settings (fault : Network.SettingsFault)
  | broadcast (fault : BroadcastFault)
  | client (failure : Failure)
  | unknownParameter (name : String)
  | unkeyable (kind : String)
  | missingKey (key : Scalar)
  | notObject (kind : String)
  | wrongKind (kind : String)
deriving Repr

namespace Fault

def transactionMessage (action : String) (contract : Value) (outcome : Outcome) : String :=
  s!"{action} failed for '{contract.display}'. {outcome.report}"

def message : Fault → String
  | unresolved reference contract =>
      match contract with
      | none | some .null => s!"Contract '{reference}' has not been deployed"
      | some name =>
          s!"Contract '{reference}' referenced by '{name.display}' has not been deployed"
  | unknownTarget target =>
      s!"Configuration target '{target.display}' is not in the registry"
  | invalidMessage schema kind problems =>
      s!"Invalid {kind.name} message for '{schema.display}': " ++
        "; ".intercalate (problems.map (·.message))
  | alreadyRecorded name address codeId =>
      s!"Contract '{name.display}' already recorded at {address.display} " ++
        s!"(code id {codeId.display})"
  | otherChain place recorded wanted =>
      s!"Registry at {place} belongs to chain '{recorded.display}', not '{wanted}'"
  | duplicateContract name =>
      s!"Contract '{name.display}' appears more than once in the deployment sequence"
  | planDocument path fault => s!"Plan file {path} is not valid JSON: {fault.message}"
  | planEntry kind index key _ =>
      s!"{kind.entryName} {index} is missing " ++ Text.quoted key
  | marker fault => fault.message
  | bytecodeMissing contract path => s!"Bytecode for '{contract.display}' not found at {path}"
  | bytecodeLocked contract path reason =>
      s!"Cannot read bytecode for '{contract.display}' at {path}: {reason}"
  | registryMissing path => s!"Deployment registry not found at {path}"
  | uploadFailed contract outcome =>
      transactionMessage "store code" (.scalar contract) outcome
  | instantiationFailed contract outcome _ =>
      transactionMessage "instantiate" (.scalar contract) outcome
  | executeFailed target outcome => transactionMessage "execute" target outcome
  | incomplete failures =>
      s!"{failures.length} configuration update(s) failed: " ++
        ", ".intercalate (failures.map fun result => s!"'{result.update.target.display}'")
  | aborted contract cause =>
      s!"Deployment of '{contract.display}' aborted: {cause.message}"
  | referenceAttribute asked => s!"Unsupported reference attribute '{asked.display}'"
  | unknownKind name => s!"{name.literal} is not a valid ValueKind"
  | wire fault => fault.message
  | integer fault => fault.message
  | coins fault => fault.message
  | json fault => fault.message
  | file fault => fault.message
  | settings fault => fault.message
  | broadcast fault => fault.message
  | client failure => failure.message
  | unknownParameter name => s!"unexpected keyword argument '{name}'"
  | unkeyable kind => s!"unhashable type: '{kind}'"
  | missingKey key => key.literal
  | notObject kind => s!"'{kind}' object has no attribute 'get'"
  | wrongKind kind => s!"unexpected value of type '{kind}'"

/-- Whether the fault is one of a deployment. -/
def isDeployment : Fault → Bool
  | unresolved .. | unknownTarget .. | invalidMessage .. | alreadyRecorded .. | otherChain ..
  | duplicateContract .. | planDocument .. | planEntry .. | bytecodeMissing .. | bytecodeLocked ..
  | registryMissing .. | uploadFailed .. | instantiationFailed .. | executeFailed ..
  | incomplete .. | aborted .. => true
  | marker fault => fault.isRefusal
  | client failure => failure.kind = .deployment
  | _ => false

/-- Whether the command line reports the fault to the operator. The others, which are values of
the wrong kind and what cannot be looked up or counted, are not expected. -/
def isReported : Fault → Bool
  | wire fault =>
      match fault with
      | .overflow | .unrepresentable | .beyondWord | .decimalTooLong | .noMoment .count
      | .integerRequired _ | .decimalRequired _ | .notConvertible _ | .octetsRequired _ => false
      | _ => true
  | integer fault | coins (.number fault) =>
      match fault with
      | .infinite | .kind _ => false
      | _ => true
  | coins fault =>
      match fault with
      | .amount _ | .shape _ | .item _ => false
      | _ => true
  | broadcast fault => fault = .noLogs
  | client failure => failure.kind ≠ .key
  | unknownParameter _ | unkeyable _ | missingKey _ | notObject _ | wrongKind _ => false
  | _ => true

/-- The contract that a fault is about, as far as it names one by itself. -/
def contract : Fault → Option Value
  | unresolved _ contract => contract.map .scalar
  | unknownTarget contract | duplicateContract contract | uploadFailed contract _
  | instantiationFailed contract _ _ | aborted contract _ => some (.scalar contract)
  | executeFailed target _ => some target
  | _ => none

end Fault

/-- The scalar by which something is looked up. Lists and objects are none. -/
def Value.toKey : Value → Except Fault Scalar
  | .scalar value => .ok value
  | value => .error (.unkeyable value.kindName)

end Rollout
