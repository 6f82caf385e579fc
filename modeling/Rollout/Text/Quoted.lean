import Rollout.Text.Printable

/-!
# Quoted texts

A text between quotes, in which the quote, the backslash and every character without a glyph
are escaped. The single quote is used unless it alone of the two quotes occurs in the text.
-/

set_option autoImplicit false

namespace Rollout.Text

def singleQuote : Char := '\x27'

def doubleQuote : Char := '\x22'

/-- The quote that needs the fewest escapes, the single one where both need as many. -/
def quoteFor (text : List Char) : Char :=
  if text.contains singleQuote && !text.contains doubleQuote then doubleQuote else singleQuote

/-- A number in lower-case hexadecimal with at least the given count of digits. -/
def hexDigits (width code : Nat) : List Char :=
  let digits := Nat.toDigits 16 code
  List.replicate (width - digits.length) '0' ++ digits

/-- An escape by code point, in the shortest of its three widths. -/
def codeEscape (code : Nat) : List Char :=
  if code < 0x100 then '\\' :: 'x' :: hexDigits 2 code
  else if code < 0x10000 then '\\' :: 'u' :: hexDigits 4 code
  else '\\' :: 'U' :: hexDigits 8 code

/-- A character as it stands between the given quotes. -/
def escapeChar (quote char : Char) : List Char :=
  if char == quote || char == '\\' then ['\\', char]
  else if char == '\t' then ['\\', 't']
  else if char == '\n' then ['\\', 'n']
  else if char == '\r' then ['\\', 'r']
  else if isPrintable char then [char]
  else codeEscape char.toNat

def quoted (text : String) : String :=
  let chars := text.toList
  let quote := quoteFor chars
  String.ofList (quote :: chars.flatMap (escapeChar quote) ++ [quote])

/-- Octets between quotes and after the letter `b`: only ASCII characters stand unescaped. -/
def quotedOctets (octets : List UInt8) : String :=
  let chars := octets.map fun octet => Char.ofNat octet.toNat
  let quote := quoteFor chars
  let escape (char : Char) : List Char :=
    if char.toNat < 0x7f then escapeChar quote char else codeEscape char.toNat
  String.ofList ('b' :: quote :: chars.flatMap escape ++ [quote])

end Rollout.Text
