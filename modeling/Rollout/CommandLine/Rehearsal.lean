import Rollout.Json.Printer
import Rollout.Json.Reader
import Rollout.Network.GasPrice
import Rollout.Session

/-!
# Rehearsals

A run against a chain whose answers are known beforehand. A document tells the time of the run,
the address that signs, the published gas prices, and what the broadcasts answer, in order. What
it does not tell fails, so that a rehearsal never goes further than its document.
-/

set_option autoImplicit false

namespace Rollout.CommandLine

open Rollout.Chain Rollout.Network

abbrev ChainAnswer := Except Failure Outcome

/-- What is known beforehand about a run. -/
structure Rehearsal where
  address : String
  clock : String
  gasPrices : Answer
  answers : List ChainAnswer

/-- What is said where no answer is known. -/
def noAnswer : String := "no answer"

/-- The answer that a value tells of: an object is an outcome, a text a failure of the connection,
and null a success about which no more is known. -/
def chainAnswer : Value → ChainAnswer
  | .object fields => .ok (Outcome.ofFields fields)
  | .null => .ok (Outcome.plain false)
  | value => .error ⟨.connection, value.display⟩

namespace Rehearsal

def ofFields (fields : List (String × Value)) : Rehearsal where
  address := ((Value.fieldOrNull fields "address").text?).getD ""
  clock := ((Value.fieldOrNull fields "time").text?).getD ""
  gasPrices :=
    match fields.lookup "gas_prices" with
    | some prices => .response (.int 200) (Json.print .compact prices)
    | none => .failed noAnswer
  answers := (((Value.fieldOrNull fields "answers").items?).getD []).map chainAnswer

/-- The rehearsal of a text; one that is no object tells nothing. -/
def read (text : String) : Rehearsal :=
  match Json.read text with
  | .ok (.object fields) => ofFields fields
  | _ => ofFields []

/-- A client that answers each broadcast from a list. -/
def client (rehearsal : Rehearsal) : Client (List ChainAnswer) where
  address := rehearsal.address
  readCoins := Coins.ofValue
  broadcast _ answers :=
    match answers with
    | [] => (.error ⟨.connection, noAnswer⟩, [])
    | answer :: rest => (answer, rest)

end Rehearsal

end Rollout.CommandLine
