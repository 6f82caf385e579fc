import Rollout.Chain.Coins

/-!
# Messages

What a transaction asks of the chain: to store code, to instantiate a contract from it, or to
execute a message on a contract.
-/

set_option autoImplicit false

namespace Rollout.Chain

/-- A message. The code of a contract is base64 text. -/
inductive Message where
  | store (sender bytecode : String)
  | instantiate (sender : String) (admin : Value) (codeId : Int) (message : Value)
      (coins : Coins)
  | execute (sender : String) (contract : Value) (message : Value)
deriving Repr

/-- The kinds of messages. -/
inductive MessageKind where
  | store
  | instantiate
  | execute
deriving DecidableEq, Repr

def Message.kind : Message → MessageKind
  | store .. => .store
  | instantiate .. => .instantiate
  | execute .. => .execute

abbrev Transaction := List Message

end Rollout.Chain
