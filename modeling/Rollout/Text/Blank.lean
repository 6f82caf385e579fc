/-!
# Blank characters

The white space of Unicode, and what trimming leaves of a text.
-/

set_option autoImplicit false

namespace Rollout.Text

/-- White space of any script. The ASCII separators from `U+001C` to `U+001F` belong to it. -/
def isBlank (char : Char) : Bool :=
  let code := char.toNat
  (9 ≤ code && code ≤ 13) || (0x1c ≤ code && code ≤ 0x20) || code == 0x85 || code == 0xa0 ||
    code == 0x1680 || (0x2000 ≤ code && code ≤ 0x200a) || code == 0x2028 || code == 0x2029 ||
    code == 0x202f || code == 0x205f || code == 0x3000

/-- Blanks that may stand around a numeral: the ASCII separators may not. -/
def isMargin (char : Char) : Bool :=
  isBlank char && !(0x1c ≤ char.toNat && char.toNat ≤ 0x1f)

/-- Drops the longest run of matching characters at the end. -/
def dropRight (drops : Char → Bool) (text : List Char) : List Char :=
  (text.reverse.dropWhile drops).reverse

def trim (drops : Char → Bool) (text : List Char) : List Char :=
  dropRight drops (text.dropWhile drops)

end Rollout.Text
