import Rollout.Chain.Message
import Rollout.Fault

/-!
# Receipts

What a node answers to a broadcast, and the outcome that is read from it. The logs hold one
entry for each message, and in it events whose attributes name what the chain assigned.
-/

set_option autoImplicit false

namespace Rollout.Chain

/-- An event of a log. -/
structure Event where
  kind : String
  attributes : List (String × Value)
deriving Repr

/-- A receipt. -/
structure Receipt where
  code : Value
  codespace : Value
  rawLog : Value
  txhash : Value
  logs : List (List Event)
deriving Repr

/-- What is asked of the logs: what the message at an index was given. -/
inductive Query where
  | codeId (index : Nat)
  | contractAddress (index : Nat)
deriving DecidableEq, Repr

namespace Receipt

/-- The attributes of all events of a kind. -/
def attributesOf (events : List Event) (kind : String) : List (String × Value) :=
  (events.filter fun event => event.kind = kind).flatMap (·.attributes)

/-- The first value of an attribute in the log of a message. -/
def find (receipt : Receipt) (index : Nat) (kind key : String) :
    Except BroadcastFault Value :=
  if receipt.logs.isEmpty then .error .noLogs
  else
    match receipt.logs[index]? with
    | none => .error (.noLog index)
    | some events =>
        match attributesOf events kind with
        | [] => .error (.noEntry kind)
        | found =>
            match found.lookup key with
            | some value => .ok value
            | none => .error (.noEntry key)

/-- A value as a code id: the integer that it is taken for. -/
def codeIdOf (value : Value) : Except Fault Value :=
  (value.toInteger.mapError .integer).map .int

/-- What the logs answer. -/
def answer (receipt : Receipt) : Query → Except Fault Value
  | .codeId index => (receipt.find index "store_code" "code_id").mapError .broadcast
  | .contractAddress index =>
      (receipt.find index "instantiate_contract" "contract_address").mapError .broadcast

section

variable {m : Type → Type} [Monad m] [MonadExceptOf Fault m] (ask : Query → m Value)

/-- The code id that the store message at an index was given. -/
def codeId (index : Nat) : m Value := do
  MonadExcept.ofExcept (codeIdOf (← ask (.codeId index)))

/-- The code id and the address that are known behind the message at an index. Of each kind the
first message with an answer counts. -/
def learn (index : Nat) (known : Value × Value) : MessageKind → m (Value × Value)
  | .store =>
      if known.1.isNull then do return (← codeId ask index, known.2) else return known
  | .instantiate =>
      if known.2.isNull then do return (known.1, ← ask (.contractAddress index)) else return known
  | .execute => return known

/-- The code id and the address that messages were given, from an index on. -/
def assigned (index : Nat) (known : Value × Value) : List MessageKind → m (Value × Value)
  | [] => return known
  | kind :: rest => do assigned (index + 1) (← learn ask index known kind) rest

/-- The outcome of a transaction with messages of given kinds, whoever answers what is asked of
the logs. Nothing is asked if the code tells of an error. -/
def outcomeBy (receipt : Receipt) (kinds : List MessageKind) : m Outcome :=
  if receipt.code.isTruthy then
    return {
      isError := true
      code := receipt.code
      codespace := receipt.codespace.orElse (.text "")
      rawLog := receipt.rawLog.orElse (.text "")
      txhash := receipt.txhash
      codeId := .null
      contractAddress := .null }
  else do
    let (codeId, contractAddress) ← assigned ask 0 (.null, .null) kinds
    return {
      isError := false
      code := .int 0
      codespace := .text ""
      rawLog := receipt.rawLog.orElse (.text "")
      txhash := receipt.txhash
      codeId
      contractAddress }

end

/-- The outcome of a transaction with messages of given kinds, as the logs have it. -/
def outcome (receipt : Receipt) (kinds : List MessageKind) : Except Fault Outcome :=
  receipt.outcomeBy receipt.answer kinds

end Receipt

end Rollout.Chain
