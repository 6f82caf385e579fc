import Rollout.Value.Integer

/-!
# Coins

Amounts of denominations, sorted by denomination. Amounts are whole numbers or decimals with 18
places; as soon as one is a decimal, all are.
-/

set_option autoImplicit false

namespace Rollout.Chain

open Rollout.Number Rollout.Text

/-- Why something is not taken for coins. -/
inductive CoinsFault where
  | coin (part : String)
  | decimal (shown : String)
  | number (fault : IntegerFault)
  | amount (shown : String)
  | shape (shown : String)
  | item (kind : String)
deriving DecidableEq, Repr

def CoinsFault.message : CoinsFault → String
  | coin part => s!"failed to parse Coin: {part}"
  | decimal shown => s!"Unable to parse Dec from string: {shown}"
  | number fault => fault.message
  | amount shown => s!"could not parse numeric value to Dec or int: {shown}"
  | shape shown => s!"could not create Coins object with argument: {shown}"
  | item kind => s!"'{kind}' object has no attribute 'denom'"

/-- An amount: a whole number, a truth value that stands for one, or a decimal as its count of
units of `10 ^ -18`. -/
inductive Amount where
  | whole (value : Int)
  | flag (value : Bool)
  | decimal (units : Int)
deriving DecidableEq, Repr

abbrev Coins := List (String × Amount)

namespace Amount

/-- The places of a decimal amount. -/
def places : Nat := 18

/-- Units in a whole. -/
def unit : Nat := Nat.pow 10 places

/-- A count of units as text with all places. -/
def printUnits (units : Int) : String :=
  let body := digits (units.natAbs / unit) ++ '.' :: padded places (units.natAbs % unit)
  String.ofList (if units < 0 then '-' :: body else body)

def print : Amount → String
  | whole value => toString value
  | flag value => if value then "True" else "False"
  | decimal units => printUnits units

def isDecimal : Amount → Bool
  | decimal _ => true
  | _ => false

/-- The whole number of an amount, as far as it is one. A truth value stands for 1 or 0. -/
def whole? : Amount → Option Int
  | whole value => some value
  | flag value => some (if value then 1 else 0)
  | decimal _ => none

def units : Amount → Int
  | whole value => value * unit
  | flag value => if value then unit else 0
  | decimal units => units

/-- The digits before and behind the point of a decimal, which has some before it. -/
def splitPoint? (text : List Char) : Option (List Nat × List Nat) :=
  match spanDigits text with
  | ([], _) => none
  | (front, []) => some (front, [])
  | (front, '.' :: rest) =>
      match spanDigits rest with
      | ([], _) => none
      | (fraction, []) => some (front, fraction)
      | _ => none
  | _ => none

/-- The units of a decimal text: digits with at most one point between them, after at most one
minus sign. Places beyond the last are dropped. -/
def readUnits (text : String) : Except CoinsFault Int :=
  let (negative, magnitude) :=
    match text.toList with
    | '-' :: rest => (true, rest)
    | other => (false, other)
  match splitPoint? magnitude with
  | none => .error (.decimal text)
  | some (front, fraction) =>
      if front.length > digitLimit then .error (.number (.numeral (.tooLong front.length)))
      else
        let kept := fraction.take places
        let padding := List.replicate (places - kept.length) 0
        .ok (signed negative (ofDigits (front ++ kept ++ padding)))

/-- An amount from text: a decimal if it has a point. -/
def ofText (text : String) : Except CoinsFault Amount :=
  if text.toList.contains '.' then (readUnits text).map decimal
  else ((Value.text text).toInteger.mapError .number).map whole

def ofValue (value : Value) : Except CoinsFault Amount :=
  match value with
  | .int number => .ok (whole number)
  | .bool truth => .ok (flag truth)
  | .text text => ofText text
  | .float number => (readUnits number.printFixed).map decimal
  | _ => .error (.amount value.display)

def toDecimal (amount : Amount) : Amount :=
  decimal amount.units

/-- The sum of two amounts, a decimal unless both are whole. -/
def add (left right : Amount) : Amount :=
  match left.whole?, right.whole? with
  | some first, some second => whole (first + second)
  | _, _ => decimal (left.units + right.units)

end Amount

namespace Coins

def add (denom : String) (amount : Amount) : Coins → Coins
  | [] => [(denom, amount)]
  | (other, existing) :: rest =>
      if denom = other then (other, existing.add amount) :: rest
      else if denom < other then (denom, amount) :: (other, existing) :: rest
      else (other, existing) :: add denom amount rest

/-- Sorts amounts by denomination, adding those of one denomination, and makes all of them
decimals if one is. -/
def ofAmounts (amounts : List (String × Amount)) : Coins :=
  let coins := amounts.foldl (fun coins coin => add coin.1 coin.2 coins) []
  if coins.any fun coin => coin.2.isDecimal then
    coins.map fun coin => (coin.1, coin.2.toDecimal)
  else coins

/-- Whether a character may stand in a denomination. -/
def isDenomChar (char : Char) : Bool :=
  char.isAlphanum || char = '/'

/-- Splits an amount off the denomination behind it. The amount is as long as it can be while a
denomination is left, which may be its last digit. -/
def splitCoin? (text : List Char) : Option (List Char × List Char) :=
  let body := if text.getLast? = some '\n' then text.dropLast else text
  let sign := body.takeWhile (· == '-')
  let magnitude := body.drop sign.length
  let front := magnitude.takeWhile Char.isDigit
  let rest := magnitude.dropWhile Char.isDigit
  let part (whole digits rest : List Char) : Option (List Char × List Char) :=
    if rest.all isDenomChar then
      if !rest.isEmpty then some (sign ++ whole ++ digits, rest)
      else if digits.length ≥ 2 then
        some (sign ++ whole ++ digits.dropLast, digits.drop (digits.length - 1))
      else none
    else none
  if sign.length > 1 || front.isEmpty then none
  else
    match rest with
    | '.' :: others =>
        let fraction := others.takeWhile Char.isDigit
        if fraction.isEmpty then none
        else part (front ++ ['.']) fraction (others.dropWhile Char.isDigit)
    | _ => part [] front rest

def readCoin (text : String) : Except CoinsFault (String × Amount) :=
  match splitCoin? text.toList with
  | some (amount, denom) =>
      (Amount.ofText (String.ofList amount)).map fun amount => (String.ofList denom, amount)
  | none => .error (.coin text)

/-- Coins from a value: amounts by denomination in an object, or coins separated by commas in a
text. Nothing and an empty list are no coins. -/
def ofValue (value : Value) : Except CoinsFault Coins :=
  match value with
  | .null | .list [] => .ok []
  | .object fields => do
      let amounts ← fields.mapM fun field =>
        (Amount.ofValue field.2).map fun amount => (field.1, amount)
      return ofAmounts amounts
  | .text text => do
      let amounts ← (text.splitOn ",").mapM readCoin
      return ofAmounts amounts
  | .list (item :: _) => .error (.item item.kindName)
  | _ => .error (.shape value.display)

end Coins

end Rollout.Chain
