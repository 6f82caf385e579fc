import Rollout.Json.Reader
import Rollout.Log
import Rollout.Text.Blank

/-!
# Gas prices

Prices of gas by denomination, from a text of coins separated by commas or from the service of a
network that publishes them.
-/

set_option autoImplicit false

namespace Rollout.Network

open Rollout.Text

/-- Why gas prices cannot be had. -/
inductive GasFault where
  | entry (text : String)
  | status (found : Value)
  | network (reason : String)
  | number (fault : Number.NumeralFault)
  | response (literal : String)
deriving Repr

def GasFault.message : GasFault → String
  | entry text => "Invalid gas price entry: " ++ quoted text
  | status found => s!"Gas price request failed with status {found.display}"
  | network reason => s!"Network error during gas price lookup: {reason}"
  | number fault => fault.message
  | response literal => s!"Unexpected gas price response: {literal}"

/-- Amounts by denomination, in order of first appearance. -/
abbrev GasPrices := List (String × String)

/-- The amount at the front of an entry and what follows it: digits, and possibly a point that
digits follow. The digits before a point may be missing. -/
def splitAmount? (text : List Char) : Option (List Char × List Char) :=
  let front := text.takeWhile Char.isDigit
  match text.dropWhile Char.isDigit with
  | '.' :: rest =>
      let fraction := rest.takeWhile Char.isDigit
      if fraction.isEmpty then none
      else some (front ++ '.' :: fraction, rest.dropWhile Char.isDigit)
  | rest => if front.isEmpty then none else some (front, rest)

/-- Whether a text is a denomination: a letter, then letters, digits and slashes, all ASCII. -/
def isDenom : List Char → Bool
  | [] => false
  | first :: rest => first.isAlpha && rest.all fun char => char.isAlphanum || char = '/'

/-- The denomination and the amount of an entry, around which blanks may stand. -/
def readPrice? (entry : List Char) : Option (String × String) := do
  let (amount, rest) ← splitAmount? (trim isBlank entry)
  let denom := rest.dropWhile isBlank
  if isDenom denom then some (String.ofList denom, String.ofList amount) else none

/-- Adds the entries of a text to prices. Blank entries count for nothing. -/
def addEntries (prices : GasPrices) : List String → Except GasFault GasPrices
  | [] => .ok prices
  | entry :: rest =>
      if entry.toList.all isBlank then addEntries prices rest
      else
        match readPrice? entry.toList with
        | some (denom, amount) => addEntries (setField denom amount prices) rest
        | none => .error (.entry entry)

/-- Reads prices from a text. A repeated denomination takes its last amount. -/
def readGasPrices (text : String) : Except GasFault GasPrices :=
  addEntries [] (text.splitOn ",")

/-- What a web service answers. -/
inductive Answer where
  | response (status : Value) (body : String)
  | failed (reason : String)
deriving Repr

/-- The address at which a service publishes gas prices. -/
def gasPricesUrl (service : String) : String :=
  String.ofList (dropRight (· == '/') service.toList) ++ "/v1/txs/gas_prices"

/-- The prices in an answer, as running texts. -/
def readAnswer (answer : Answer) : Except GasFault GasPrices :=
  match answer with
  | .failed reason => .error (.network reason)
  | .response status body =>
      match status.scalar?.map Scalar.key with
      | some (.int 200) =>
          match Json.read body with
          | .error (.number fault) => .error (.number fault)
          | .error fault => .error (.network fault.message)
          | .ok (.object (field :: fields)) =>
              .ok ((field :: fields).map fun price => (price.1, price.2.display))
          | .ok other => .error (.response other.literal)
      | _ => .error (.status status)

def fetchedEntry (prices : GasPrices) (url : String) : Log.Entry :=
  ⟨.debug, .gasPrices, s!"Fetched gas prices for {prices.length} denom(s) from {url}"⟩

end Rollout.Network
