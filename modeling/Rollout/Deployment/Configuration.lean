import Rollout.Session
import Rollout.Registry
import Rollout.Schema.Validation

/-!
# Configuration updates

Messages to contracts that are deployed. All are resolved and judged before the first is sent;
from then on each is sent whatever became of those before it.
-/

set_option autoImplicit false

namespace Rollout

namespace Template

/-- The first part of a template as running text: the first key, item or character, and a
question mark where there is none. A template that has no parts has no first one. -/
def firstPart : Template → Except Fault String
  | object [] | list [] | tuple [] | scalar (.text "") => .ok "?"
  | object ((key, _) :: _) => .ok key
  | list (item :: _) | tuple (item :: _) => .ok item.display
  | scalar (.text text) => .ok (String.ofList (text.toList.take 1))
  | scalar value => .error (.wrongKind value.kindName)
  | reference _ | placeholder => .error (.wrongKind "marker")

end Template

namespace Deployment

open Rollout.Chain

variable {σ : Type}

/-- An update that is ready to be sent: the update, the contract's record, and the message. -/
structure Prepared where
  update : ConfigUpdate
  record : Record
  message : Value
deriving Repr

/-- Looks up the contract of an update and resolves and judges its message. -/
def prepare (catalog : Schema.Catalog) (registry : Registry) (update : ConfigUpdate) :
    Except Fault Prepared := do
  let target ← update.target.toKey
  match registry.find? target with
  | none => .error (.unknownTarget target)
  | some record =>
      let message ← registry.resolve update.message none (some target)
      catalog.validate .execute update.schemaName message
      return ⟨update, record, message⟩

/-- What a failure of the client leaves of a transaction. It may have arrived all the same. -/
def failureOutcome (failure : Failure) : Outcome :=
  { Outcome.plain true with
    code := .int (-1)
    codespace := .text "client"
    rawLog := .text failure.message }

def sayOfUpdate (level : Log.Level) (text : String) : Action σ Unit :=
  ExceptT.lift (Session.report ⟨level, .configuration, text⟩)

/-- Sends a prepared update. Its outcome is recorded, not judged. -/
def sendUpdate (client : Client σ) (prepared : Prepared) : Action σ UpdateResult := do
  let target := prepared.update.target.display
  let address := prepared.record.address
  let variant ← (Template.ofValue prepared.message).firstPart
  sayOfUpdate .info s!"Executing {variant} on {target} ({address.display})"
  let answer ←
    Session.broadcast client [.execute client.address address prepared.message]
  let outcome :=
    match answer with
    | .ok outcome => outcome
    | .error failure => failureOutcome failure
  if outcome.isError then
    sayOfUpdate .warning s!"Update of {target} failed. {outcome.report}"
  return ⟨prepared.update, outcome⟩

/-- Applies updates in order and answers their results. -/
def configure (client : Client σ) (catalog : Schema.Catalog) (registry : Registry)
    (updates : List ConfigUpdate) : Action σ (List UpdateResult) := do
  let prepared : List Prepared ← liftM (updates.mapM (prepare catalog registry))
  prepared.mapM (sendUpdate client)

def failures (results : List UpdateResult) : List UpdateResult :=
  results.filter (·.outcome.isError)

/-- The updates that have to be sent again. -/
def failedUpdates (results : List UpdateResult) : List ConfigUpdate :=
  (failures results).map (·.update)

def requireSuccess (results : List UpdateResult) : Except Fault Unit :=
  match failures results with
  | [] => .ok ()
  | failed => .error (.incomplete failed)

end Deployment

end Rollout
