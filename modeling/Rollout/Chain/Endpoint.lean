import Rollout.Chain.Receipt
import Rollout.Log

/-!
# Endpoints

A node and a wallet that submit transactions together. Signing simulates the transaction, so a
contract may reject it there as well as in the broadcast. A rejection is an outcome; any other
failure is a fault.
-/

set_option autoImplicit false

namespace Rollout.Chain

/-- What goes wrong at an endpoint: the node rejects a request, with a status if it gives one,
or the request fails. -/
inductive EndpointFault where
  | rejected (message : Value) (status : Option Value)
  | failed (failure : Failure)
deriving Repr

/-- A node and a wallet with a state of their own. -/
structure Endpoint (σ : Type) where
  sign : Transaction → σ → Except EndpointFault String × σ
  broadcast : String → σ → Except EndpointFault Receipt × σ

/-- The code of a rejection without a status. -/
def unknownStatus : Value := .int (-1)

def rejection (message : Value) (status : Option Value) : Outcome :=
  { Outcome.plain true with
    code := status.getD unknownStatus
    codespace := .text "lcd"
    rawLog := .text message.display }

def rejectionEntry (message : Value) : Log.Entry :=
  ⟨.warning, .client, s!"LCD rejected transaction: {message.display}"⟩

def broadcastEntry (outcome : Outcome) : Log.Entry :=
  ⟨.debug, .client, s!"Broadcast {outcome.txhash.display}: code={outcome.code.display}"⟩

namespace Endpoint

variable {σ : Type}

/-- Signs and broadcasts a transaction. -/
def exchange (endpoint : Endpoint σ) (transaction : Transaction) :
    ExceptT EndpointFault (StateM σ) Receipt := do
  let signed ← ExceptT.mk (modifyGet (endpoint.sign transaction))
  ExceptT.mk (modifyGet (endpoint.broadcast signed))

/-- Submits a transaction: its outcome, and what is logged. -/
def submit (endpoint : Endpoint σ) (transaction : Transaction) :
    StateM σ (Except Fault Outcome × List Log.Entry) := do
  match ← (endpoint.exchange transaction).run with
  | .error (.rejected message status) =>
      return (.ok (rejection message status), [rejectionEntry message])
  | .error (.failed failure) => return (.error (.client failure), [])
  | .ok receipt =>
      match receipt.outcome (transaction.map (·.kind)) with
      | .ok outcome => return (.ok outcome, [broadcastEntry outcome])
      | .error fault => return (.error fault, [])

end Endpoint

end Rollout.Chain
