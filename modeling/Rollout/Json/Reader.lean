import Rollout.Number.Numeral
import Rollout.Value

/-!
# JSON documents from text

Reading is strict, except that the names of the infinities and of no number are accepted. Where
a key is repeated, the field keeps its first place and takes its last value. A flaw is reported
with its line, its column and its distance from the start.

Text consists of whole characters. An escape may give half of a surrogate pair, which is none; it is
read as the replacement character. So texts that differ in such halves alone are read as the same
one, and what is said of documents and files is said with that limit.
-/

set_option autoImplicit false

namespace Rollout.Json

open Rollout.Number

/-- What is wrong at some place of a document. -/
inductive Flaw where
  | byteOrderMark
  | value
  | key
  | colon
  | comma
  | unterminated
  | control
  | escape
  | unicodeEscape
  | trailing
deriving DecidableEq, Repr

def Flaw.text : Flaw → String
  | byteOrderMark => "Unexpected UTF-8 BOM (decode using utf-8-sig)"
  | value => "Expecting value"
  | key => "Expecting property name enclosed in double quotes"
  | colon => "Expecting ':' delimiter"
  | comma => "Expecting ',' delimiter"
  | unterminated => "Unterminated string starting at"
  | control => "Invalid control character at"
  | escape => "Invalid \\escape"
  | unicodeEscape => "Invalid \\uXXXX escape"
  | trailing => "Extra data"

/-- A flaw and what is left of the document where it stands, or an integer with too many
digits. -/
inductive Stop where
  | flaw (flaw : Flaw) (rest : List Char)
  | number (fault : NumeralFault)
deriving DecidableEq, Repr

/-- Blanks between tokens. -/
def isBlank (char : Char) : Bool :=
  char = ' ' || char = '\t' || char = '\n' || char = '\r'

def skipBlanks (text : List Char) : List Char :=
  text.dropWhile isBlank

/-- The value of a hexadecimal digit of either case. -/
def hexDigit? (char : Char) : Option Nat :=
  let code := char.toNat
  if 48 ≤ code ∧ code ≤ 57 then some (code - 48)
  else if 97 ≤ code ∧ code ≤ 102 then some (code - 87)
  else if 65 ≤ code ∧ code ≤ 70 then some (code - 55)
  else none

/-- The 16-bit unit that four hexadecimal digits stand for. -/
def unit? (first second third fourth : Char) : Option Nat := do
  let a ← hexDigit? first
  let b ← hexDigit? second
  let c ← hexDigit? third
  let d ← hexDigit? fourth
  return ((a * 16 + b) * 16 + c) * 16 + d

/-- Whether a unit is the first of a surrogate pair. -/
def isHighSurrogate (unit : Nat) : Bool :=
  0xd800 ≤ unit && unit ≤ 0xdbff

/-- Whether a unit is the second of a surrogate pair. -/
def isLowSurrogate (unit : Nat) : Bool :=
  0xdc00 ≤ unit && unit ≤ 0xdfff

/-- The character of a code point; half a surrogate pair has none and is replaced. -/
def codeChar (code : Nat) : Char :=
  if isHighSurrogate code || isLowSurrogate code then Char.ofNat 0xfffd else Char.ofNat code

def pairChar (high low : Nat) : Char :=
  Char.ofNat (0x10000 + (high - 0xd800) * 0x400 + (low - 0xdc00))

/-- The character that a letter after a backslash stands for. -/
def simpleEscape? (char : Char) : Option Char :=
  if char = Text.doubleQuote || char = '\\' || char = '/' then some char
  else if char = 'b' then some (Char.ofNat 8)
  else if char = 'f' then some (Char.ofNat 12)
  else if char = 'n' then some '\n'
  else if char = 'r' then some '\r'
  else if char = 't' then some '\t'
  else none

/-- The characters that code points stand for. Two halves of a surrogate pair next to each other
make one character. -/
def characters : List Nat → List Char
  | [] => []
  | [code] => [codeChar code]
  | high :: low :: rest =>
      if isHighSurrogate high && isLowSurrogate low then pairChar high low :: characters rest
      else codeChar high :: characters (low :: rest)

/-- Reads the code points of a text up to its closing quote. `opening` is the document from the
opening quote on, `done` what was read, the last code point first. An escape by code point needs
a character behind it. -/
def readCodes (opening : List Char) (done : List Nat) :
    List Char → Except Stop (List Nat × List Char)
  | [] => .error (.flaw .unterminated opening)
  | '\\' :: 'u' :: a :: b :: c :: d :: rest =>
      match unit? a b c d with
      | some unit =>
          if rest.isEmpty then .error (.flaw .unicodeEscape ['u', a, b, c, d])
          else readCodes opening (unit :: done) rest
      | none => .error (.flaw .unicodeEscape ('u' :: a :: b :: c :: d :: rest))
  | '\\' :: 'u' :: rest => .error (.flaw .unicodeEscape ('u' :: rest))
  | ['\\'] => .error (.flaw .unterminated opening)
  | '\\' :: char :: rest =>
      match simpleEscape? char with
      | some meant => readCodes opening (meant.toNat :: done) rest
      | none => .error (.flaw .escape ('\\' :: char :: rest))
  | char :: rest =>
      if char = Text.doubleQuote then .ok (done.reverse, rest)
      else if char.toNat ≤ 0x1f then .error (.flaw .control (char :: rest))
      else readCodes opening (char.toNat :: done) rest
termination_by structural text => text

def readText (opening rest : List Char) : Except Stop (String × List Char) :=
  (readCodes opening [] rest).map fun (codes, others) =>
    (String.ofList (characters codes), others)

/-- The value of the ASCII digits at the front of a text and what follows them. -/
def spanAscii (text : List Char) : List Nat × List Char :=
  ((text.takeWhile Char.isDigit).map Text.asciiDigit, text.dropWhile Char.isDigit)

/-- The digits after a point, if there are any; else nothing is taken. -/
def readFraction (text : List Char) : List Nat × List Char :=
  match text with
  | '.' :: rest =>
      match spanAscii rest with
      | ([], _) => ([], text)
      | found => found
  | _ => ([], text)

/-- The exponent, if there is one; else nothing is taken. -/
def readExponent (text : List Char) : Option Int × List Char :=
  match text with
  | mark :: rest =>
      if mark = 'e' || mark = 'E' then
        let (negative, magnitude) := splitSign rest
        match spanAscii magnitude with
        | ([], _) => (none, text)
        | (values, others) => (some (signed negative (ofDigits values)), others)
      else (none, text)
  | [] => (none, text)

/-- The digits before the point: a zero stands alone. -/
def readWhole (text : List Char) : List Nat × List Char :=
  match text with
  | '0' :: rest => ([0], rest)
  | _ => spanAscii text

/-- Reads a number: an integer unless it has a fraction or an exponent. -/
def readNumber (text : List Char) : Except Stop (Scalar × List Char) :=
  let (negative, magnitude) :=
    match text with
    | '-' :: rest => (true, rest)
    | _ => (false, text)
  match readWhole magnitude with
  | ([], _) => .error (.flaw .value text)
  | (whole, rest) =>
      let (fraction, rest) := readFraction rest
      let (exponent, rest) := readExponent rest
      if fraction.isEmpty && exponent.isNone then
        if whole.length > digitLimit then .error (.number (.tooLong whole.length))
        else .ok (.int (signed negative (ofDigits whole)), rest)
      else
        let unit := exponent.getD 0 - (fraction.length : Int)
        .ok (.float (Binary64.ofScaled negative (ofDigits (whole ++ fraction)) unit), rest)

def words : List (List Char × Scalar) :=
  [("null".toList, .null), ("true".toList, .bool true), ("false".toList, .bool false),
    ("NaN".toList, .float .nan), ("Infinity".toList, .float (.infinite false)),
    ("-Infinity".toList, .float (.infinite true))]

def readPlain (text : List Char) : Except Stop (Scalar × List Char) :=
  match words.find? fun word => word.1.isPrefixOf text with
  | some (word, scalar) => .ok (scalar, text.drop word.length)
  | none => readNumber text

/-- The fields in the order of their first occurrence, each with its last value. -/
def collect (fields : List (String × Value)) : List (String × Value) :=
  fields.foldl (fun collected field => setField field.1 field.2 collected) []

/-- Reads a key, the colon behind it and the blanks around that. -/
def readKey (text : List Char) : Except Stop (String × List Char) :=
  match text with
  | '\x22' :: rest => do
      let (key, rest) ← readText text rest
      match skipBlanks rest with
      | ':' :: others => .ok (key, skipBlanks others)
      | others => .error (.flaw .colon others)
  | _ => .error (.flaw .key text)

mutual

/-- Reads a value at the front of a text. The fuel bounds the steps; twice the length of the
text is enough, since of two steps at least one takes a character. -/
def readValue : Nat → List Char → Except Stop (Value × List Char)
  | 0, text => .error (.flaw .value text)
  | fuel + 1, text =>
      match text with
      | '\x22' :: rest => do
          let (found, rest) ← readText text rest
          return (.text found, rest)
      | '\x7b' :: rest =>
          match skipBlanks rest with
          | '\x7d' :: others => .ok (.object [], others)
          | others => readFields fuel [] others
      | '[' :: rest =>
          match skipBlanks rest with
          | ']' :: others => .ok (.list [], others)
          | others => readItems fuel [] others
      | _ => do
          let (scalar, rest) ← readPlain text
          return (.scalar scalar, rest)

/-- Reads the items of a list up to its end, behind those already read. -/
def readItems : Nat → List Value → List Char → Except Stop (Value × List Char)
  | 0, _, text => .error (.flaw .value text)
  | fuel + 1, done, text => do
      let (item, rest) ← readValue fuel text
      match skipBlanks rest with
      | ']' :: others => return (.list (done ++ [item]), others)
      | ',' :: others => readItems fuel (done ++ [item]) (skipBlanks others)
      | others => .error (.flaw .comma others)

/-- Reads the fields of an object up to its end, behind those already read. -/
def readFields : Nat → List (String × Value) → List Char → Except Stop (Value × List Char)
  | 0, _, text => .error (.flaw .value text)
  | fuel + 1, done, text => do
      let (key, rest) ← readKey text
      let (value, rest) ← readValue fuel rest
      match skipBlanks rest with
      | '\x7d' :: others => return (.object (setField key value done), others)
      | ',' :: others => readFields fuel (setField key value done) (skipBlanks others)
      | others => .error (.flaw .comma others)

end

def readDocument (text : List Char) : Except Stop Value :=
  match text with
  | '\ufeff' :: _ => .error (.flaw .byteOrderMark text)
  | _ => do
      let (value, rest) ← readValue (2 * text.length + 2) (skipBlanks text)
      match skipBlanks rest with
      | [] => return value
      | others => .error (.flaw .trailing others)

/-- Why a document cannot be read: a flaw and its place, or an integer with too many digits. -/
inductive Fault where
  | flaw (flaw : Flaw) (line column position : Nat)
  | number (fault : NumeralFault)
deriving DecidableEq, Repr

namespace Fault

/-- The place of a flaw, from what is left of the document there. -/
def locate (document : List Char) : Stop → Fault
  | .number fault => number fault
  | .flaw found rest =>
      let position := document.length - rest.length
      let before := document.take position
      let line := before.count '\n' + 1
      let column := (before.reverse.takeWhile (· != '\n')).length + 1
      flaw found line column position

def message : Fault → String
  | flaw found line column position =>
      s!"{found.text}: line {line} column {column} (char {position})"
  | number fault => fault.message

end Fault

def read (document : String) : Except Fault Value :=
  (readDocument document.toList).mapError (Fault.locate document.toList)

end Rollout.Json
