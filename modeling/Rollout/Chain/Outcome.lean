import Rollout.Value

/-!
# Outcomes of transactions

What is known of a transaction once it was signed and broadcast: whether it failed, and what the
chain assigned if it did not. What the chain answers is not trusted to be of the right kind.
-/

set_option autoImplicit false

namespace Rollout.Chain

/-- The outcome of a transaction. -/
structure Outcome where
  isError : Bool
  code : Value
  codespace : Value
  rawLog : Value
  txhash : Value
  codeId : Value
  contractAddress : Value
deriving Repr

namespace Outcome

/-- An outcome about which no more is known than whether it is an error. -/
def plain (isError : Bool) : Outcome :=
  ⟨isError, .int 0, .text "", .text "", .null, .null, .null⟩

/-- The outcome that the fields of an object tell of. What they leave out is as in a success about
which no more is known. -/
def ofFields (fields : List (String × Value)) : Outcome where
  isError := (Value.fieldOrNull fields "is_error").isTruthy
  code := Value.field fields "code" (.int 0)
  codespace := Value.field fields "codespace" (.text "")
  rawLog := Value.field fields "raw_log" (.text "")
  txhash := Value.fieldOrNull fields "txhash"
  codeId := Value.fieldOrNull fields "code_id"
  contractAddress := Value.fieldOrNull fields "contract_address"

/-- The code, codespace and log of an outcome in words. -/
def report (outcome : Outcome) : String :=
  s!"code: {outcome.code.display}, codespace: {outcome.codespace.display}, " ++
    s!"raw_log: {outcome.rawLog.display}"

end Outcome

end Rollout.Chain
