import Rollout.Text.Quoted

/-!
# Failures of chain clients

A broadcast may fail without an outcome. What then became of the transaction is not known.
-/

set_option autoImplicit false

namespace Rollout.Chain

/-- The kinds of failures. -/
inductive FailureKind where
  | run
  | connection
  | timeout
  | value
  | key
  | deployment
deriving DecidableEq, Repr

/-- A failure of a client and what it says, or the key it misses. -/
structure Failure where
  kind : FailureKind
  detail : String
deriving DecidableEq, Repr

/-- The failure in words: a missing key is quoted. -/
def Failure.message (failure : Failure) : String :=
  match failure.kind with
  | .key => Text.quoted failure.detail
  | _ => failure.detail

end Rollout.Chain
