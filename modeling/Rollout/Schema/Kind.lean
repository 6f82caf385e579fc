import Rollout.Value.Quoting
import Rollout.Wire.Address
import Rollout.Wire.Amount
import Rollout.Wire.Binary
import Rollout.Wire.Uint

/-!
# Kinds of wire values

The leaves of message schemas: which values each kind accepts, and what is wrong with the
others.
-/

set_option autoImplicit false

namespace Rollout.Schema

/-- A kind of wire value. -/
inductive Kind where
  | address
  | validatorAddress
  | uint128
  | uint64
  | decimal
  | binary
  | timestamp
  | text
  | bool
  | u8
  | u32
  | u64
deriving DecidableEq, Repr

namespace Kind

def name : Kind → String
  | address => "Addr"
  | validatorAddress => "ValidatorAddr"
  | uint128 => "Uint128"
  | uint64 => "Uint64"
  | decimal => "Decimal"
  | binary => "Binary"
  | timestamp => "Timestamp"
  | text => "string"
  | bool => "bool"
  | u8 => "u8"
  | u32 => "u32"
  | u64 => "u64"

def all : List Kind :=
  [address, validatorAddress, uint128, uint64, decimal, binary, timestamp, text, bool, u8, u32,
    u64]

def ofName? (name : String) : Option Kind :=
  all.find? fun kind => kind.name = name

/-- The largest integer of a kind that holds integers; zero for the others. -/
def limit : Kind → Nat
  | u8 => Nat.pow 2 8 - 1
  | u32 => Nat.pow 2 32 - 1
  | uint64 | timestamp | u64 => Wire.maxUint64
  | uint128 => Wire.maxUint128
  | _ => 0

end Kind

/-- What is wrong with a value. Values are quoted by their literals. -/
inductive Mismatch where
  | address (part literal : String)
  | numeral (kind : Kind) (literal : String)
  | decimal (literal : String)
  | binary (literal : String)
  | text (literal : String)
  | bool (literal : String)
  | integer (kind : Kind) (literal : String)
  | range (kind : Kind) (shown : String)
deriving DecidableEq, Repr

def Mismatch.message : Mismatch → String
  | address part literal => s!"expected a '{part}' address, got {literal}"
  | numeral kind literal => s!"expected {kind.name} as a decimal string, got {literal}"
  | decimal literal =>
      s!"expected Decimal as a string with at most 18 fractional digits, got {literal}"
  | binary literal => s!"expected Binary as a base64 string, got {literal}"
  | text literal => s!"expected a string, got {literal}"
  | bool literal => s!"expected a boolean, got {literal}"
  | integer kind literal => s!"expected {kind.name} as an integer, got {literal}"
  | range kind shown => s!"{kind.name} out of range: {shown}"

namespace Kind

/-- The human-readable part that an address of a kind begins with. -/
def addressPart (account : String) : Kind → String
  | validatorAddress => Wire.validatorPart
  | _ => account

/-- What is said of a value, given by its literal, that has not the form of a kind. -/
def formMismatch (kind : Kind) (account literal : String) : Mismatch :=
  match kind with
  | address | validatorAddress => .address (kind.addressPart account) literal
  | uint128 | uint64 | timestamp => .numeral kind literal
  | decimal => .decimal literal
  | binary => .binary literal
  | text => .text literal
  | bool => .bool literal
  | u8 | u32 | u64 => .integer kind literal

/-- Judges a text of the form of a wide integer by its size. -/
def checkUint (kind : Kind) (given : String) : Except Wire.Fault (Option Mismatch) := do
  let number ← (Number.readInt given).mapError .number
  return if number > kind.limit then some (.range kind given) else none

/-- Judges a text of the form of a decimal by its size. One that is too long for any decimal cannot
be judged. -/
def checkAmount (given : String) : Except Wire.Fault (Option Mismatch) :=
  match Number.Decimal.read? given with
  | some (.finite _ coefficient exponent) => do
      let exceeds ← Wire.exceedsUnits coefficient exponent
      return if exceeds then some (.range .decimal given) else none
  | _ => .error .unrepresentable

def checkText (kind : Kind) (account given : String) : Except Wire.Fault (Option Mismatch) :=
  let mismatch := kind.formMismatch account (Text.quoted given)
  match kind with
  | address | validatorAddress =>
      .ok (if Wire.isAddress (kind.addressPart account) given then none else some mismatch)
  | uint128 | uint64 | timestamp =>
      if Wire.isUintText given then kind.checkUint given else .ok (some mismatch)
  | decimal => if Wire.isDecimalText given then checkAmount given else .ok (some mismatch)
  | binary => do return if ← Wire.isBinaryText given then none else some mismatch
  | text => .ok none
  | bool | u8 | u32 | u64 => .ok (some mismatch)

/-- Refuses a value that has not the form of a kind. It has to be quoted for that. -/
def refuse (kind : Kind) (account : String) (value : Value) :
    Except Wire.Fault (Option Mismatch) := do
  let literal ← value.quote.mapError .number
  return some (kind.formMismatch account literal)

/-- Judges a value: what is wrong with it, if anything, unless it cannot be judged. -/
def check (kind : Kind) (account : String) (value : Value) :
    Except Wire.Fault (Option Mismatch) :=
  match value with
  | .text given => kind.checkText account given
  | .bool _ => if kind = bool then .ok none else kind.refuse account value
  | .int number =>
      match kind with
      | u8 | u32 | u64 =>
          if 0 ≤ number ∧ number ≤ kind.limit then .ok none
          else do
            let shown ← value.quote.mapError .number
            return some (.range kind shown)
      | _ => kind.refuse account value
  | _ => kind.refuse account value

/-- Judges octets, which no kind accepts. -/
def checkOctets (kind : Kind) (account : String) (octets : List UInt8) : Mismatch :=
  kind.formMismatch account (Text.quotedOctets octets)

end Kind

end Rollout.Schema
