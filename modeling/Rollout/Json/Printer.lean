import Rollout.Value.Quoting

/-!
# JSON documents as text

Every text is written in ASCII: what lies outside is escaped, by a surrogate pair where the code
point needs more than 16 bits. A layout fixes the separators and the indentation.
-/

set_option autoImplicit false

namespace Rollout.Json

open Rollout.Number

/-- Separators between items and after keys, and the columns by which each level is indented on
lines of its own, if any. -/
structure Layout where
  betweenItems : List Char
  afterKey : List Char
  indent : Option Nat
deriving DecidableEq, Repr

namespace Layout

/-- One line without blanks. -/
def compact : Layout := ⟨[','], [':'], none⟩

/-- One line with a blank after each separator. -/
def spaced : Layout := ⟨[',', ' '], [':', ' '], none⟩

/-- A line for each item, indented by two columns a level. -/
def indented : Layout := ⟨[','], [':', ' '], some 2⟩

/-- What starts an item at a level: a new line, or nothing. -/
def lineBreak (layout : Layout) (depth : Nat) : List Char :=
  match layout.indent with
  | none => []
  | some columns => '\n' :: List.replicate (columns * depth) ' '

end Layout

def unitEscape (unit : Nat) : List Char :=
  '\\' :: 'u' :: Text.hexDigits 4 unit

/-- A character as it stands in a JSON text. -/
def escapeChar (char : Char) : List Char :=
  let code := char.toNat
  if char = Text.doubleQuote then ['\\', Text.doubleQuote]
  else if char = '\\' then ['\\', '\\']
  else if char = '\n' then ['\\', 'n']
  else if char = '\r' then ['\\', 'r']
  else if char = '\t' then ['\\', 't']
  else if code = 8 then ['\\', 'b']
  else if code = 12 then ['\\', 'f']
  else if 0x20 ≤ code ∧ code ≤ 0x7e then [char]
  else if code < 0x10000 then unitEscape code
  else
    let offset := code - 0x10000
    unitEscape (0xd800 + offset / 0x400) ++ unitEscape (0xdc00 + offset % 0x400)

def writeText (text : String) : List Char :=
  Text.doubleQuote :: text.toList.flatMap escapeChar ++ [Text.doubleQuote]

/-- A floating-point number; the infinities and no number have names of their own. -/
def writeFloat : Binary64 → List Char
  | .nan => "NaN".toList
  | .infinite negative => (if negative then "-Infinity" else "Infinity").toList
  | value => value.print.toList

def writeScalar : Scalar → List Char
  | .null => "null".toList
  | .bool value => (if value then "true" else "false").toList
  | .int value => (toString value).toList
  | .float value => writeFloat value
  | .text value => writeText value

mutual

def write (layout : Layout) (depth : Nat) : Value → List Char
  | .scalar value => writeScalar value
  | .list items =>
      if items.isEmpty then ['[', ']']
      else '[' :: writeItems layout (depth + 1) items ++ layout.lineBreak depth ++ [']']
  | .object fields =>
      if fields.isEmpty then ['\x7b', '\x7d']
      else '\x7b' :: writeFields layout (depth + 1) fields ++ layout.lineBreak depth ++ ['\x7d']
termination_by structural value => value

def writeItems (layout : Layout) (depth : Nat) : List Value → List Char
  | [] => []
  | item :: rest =>
      layout.lineBreak depth ++ write layout depth item ++
        (if rest.isEmpty then [] else layout.betweenItems ++ writeItems layout depth rest)
termination_by structural items => items

def writeFields (layout : Layout) (depth : Nat) : List (String × Value) → List Char
  | [] => []
  | (key, value) :: rest =>
      layout.lineBreak depth ++ writeText key ++ layout.afterKey ++ write layout depth value ++
        (if rest.isEmpty then [] else layout.betweenItems ++ writeFields layout depth rest)
termination_by structural fields => fields

end

def print (layout : Layout) (value : Value) : String :=
  String.ofList (write layout 0 value)

mutual

/-- The text of a value up to the first integer that cannot be written. A separator is written
together with the item of a list behind it, but before the key of a field. -/
def writeFront (layout : Layout) (depth : Nat) : Value → List Char
  | .scalar value => if value.isQuotable then writeScalar value else []
  | .list items => writeFrontItems layout (depth + 1) ('[' :: layout.lineBreak (depth + 1)) items
  | .object fields =>
      writeFrontFields layout (depth + 1) ('\x7b' :: layout.lineBreak (depth + 1)) fields
termination_by structural value => value

def writeFrontItems (layout : Layout) (depth : Nat) (separator : List Char) :
    List Value → List Char
  | [] => []
  | item :: rest =>
      if item.isQuotable then
        separator ++ write layout depth item ++
          writeFrontItems layout depth (layout.betweenItems ++ layout.lineBreak depth) rest
      else (if item.scalar?.isSome then [] else separator) ++ writeFront layout depth item
termination_by structural items => items

def writeFrontFields (layout : Layout) (depth : Nat) (separator : List Char) :
    List (String × Value) → List Char
  | [] => []
  | (key, value) :: rest =>
      separator ++ writeText key ++ layout.afterKey ++
        if value.isQuotable then
          write layout depth value ++
            writeFrontFields layout depth (layout.betweenItems ++ layout.lineBreak depth) rest
        else writeFront layout depth value
termination_by structural fields => fields

end

/-- What is left in a file when the writing of a value breaks off. -/
def printFront (layout : Layout) (value : Value) : String :=
  String.ofList (writeFront layout 0 value)

end Rollout.Json
