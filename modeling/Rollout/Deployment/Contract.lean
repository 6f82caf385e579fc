import Rollout.Session
import Rollout.Registry
import Rollout.Schema.Validation

/-!
# Deployment of one contract

The code of a contract is stored, and a contract is instantiated from it. The message is judged
and the code is read before anything is sent, and neither transaction is tried again.
-/

set_option autoImplicit false

namespace Rollout.Deployment

open Rollout.Chain

variable {σ : Type}

def readBytecode (files : Files) (descriptor : Descriptor) : Except Fault (List UInt8) :=
  match files.find descriptor.bytecode with
  | .ok (.octets content) => .ok content
  | .ok (.text content) => .ok (Text.Utf8.encode content.toList)
  | .ok (.locked reason) =>
      .error (.bytecodeLocked descriptor.name descriptor.bytecode reason)
  | .error (.failed .nameTooLong path) => .error (.file (.failed .nameTooLong path))
  | .ok .directory | .error _ => .error (.bytecodeMissing descriptor.name descriptor.bytecode)

/-- The message of a contract, in which no marker may be left. -/
def finishedMessage (descriptor : Descriptor) : Except Fault Value :=
  descriptor.message.value.mapError fun marker =>
    .unresolved marker.name (some descriptor.name)

def say (text : String) : Action σ Unit :=
  ExceptT.lift (Session.report ⟨.info, .contract, text⟩)

/-- Broadcasts a transaction with one message. A failure of the client is a fault. -/
def send (client : Client σ) (message : Message) : Action σ Outcome := do
  match ← Session.broadcast client [message] with
  | .ok outcome => return outcome
  | .error failure => throw (.client failure)

/-- Stores the code of a contract and answers its code id. -/
def store (client : Client σ) (descriptor : Descriptor) (bytecode : List UInt8) :
    Action σ Value := do
  let name := descriptor.name.display
  say s!"Storing code for {name} from {descriptor.bytecode}"
  let outcome ← send client (.store client.address (Wire.encodeOctets bytecode))
  if outcome.isError then throw (.uploadFailed descriptor.name outcome)
  say s!"Stored {name} as code id {outcome.codeId.display} (tx {outcome.txhash.display})"
  return outcome.codeId

/-- The message that instantiates a contract. Its coins and its code id are read here. -/
def instantiateMessage (signer : Signer) (descriptor : Descriptor) (message codeId : Value) :
    Except Fault Message := do
  let coins ← (signer.readCoins (descriptor.coins.orElse (.object []))).mapError .coins
  let number ← codeId.toInteger.mapError .integer
  let admin := descriptor.admin.orElse (.text signer.address)
  return .instantiate signer.address admin number message coins

/-- An outcome without an address to record counts as a rejection. -/
def withoutAddress (outcome : Outcome) (mismatch : Schema.Mismatch) : Outcome :=
  { outcome with
    isError := true
    codespace := .text "client"
    rawLog := .text s!"instantiate result has no usable contract address: {mismatch.message}" }

/-- The address that an outcome gives to a contract: one of the network, since references will
stand for it. -/
def assignedAddress (account : String) (descriptor : Descriptor) (codeId : Value)
    (outcome : Outcome) : Except Fault Value := do
  match ← (Schema.Kind.address.check account outcome.contractAddress).mapError .wire with
  | none => return outcome.contractAddress
  | some mismatch =>
      .error (.instantiationFailed descriptor.name (withoutAddress outcome mismatch) codeId)

/-- Instantiates a contract from its code and answers its address. -/
def instantiate (client : Client σ) (account : String) (descriptor : Descriptor)
    (message codeId : Value) : Action σ Value := do
  let name := descriptor.name.display
  let request ← instantiateMessage client.toSigner descriptor message codeId
  say s!"Instantiating {name} from code id {codeId.display}"
  let outcome ← send client request
  if outcome.isError then throw (.instantiationFailed descriptor.name outcome codeId)
  assignedAddress account descriptor codeId outcome

def deploy (client : Client σ) (catalog : Schema.Catalog) (descriptor : Descriptor) :
    Action σ Record := do
  let message ← finishedMessage descriptor
  catalog.validate .instantiate descriptor.schemaName message
  let bytecode ← readBytecode (← get).files descriptor
  let codeId ← store client descriptor bytecode
  let address ← instantiate client catalog.account descriptor message codeId
  say s!"Instantiated {descriptor.name.display} at {address.display}"
  return ⟨descriptor.name, codeId, address⟩

end Rollout.Deployment
