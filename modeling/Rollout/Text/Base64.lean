/-!
# Base64

Octets as text of the standard alphabet with padding. Reading is strict about the alphabet and
about where padding stands, but not about the spare bits before it, nor about padding that
follows complete groups.
-/

set_option autoImplicit false

namespace Rollout.Text.Base64

def pad : Char := '='

/-- The character of a six-bit value: capitals, small letters, digits, `+` and `/`. -/
def symbol (sextet : Nat) : Char :=
  if sextet < 26 then Char.ofNat (65 + sextet)
  else if sextet < 52 then Char.ofNat (97 + (sextet - 26))
  else if sextet < 62 then Char.ofNat (48 + (sextet - 52))
  else if sextet = 62 then '+'
  else '/'

/-- The six-bit value of a character of the alphabet. -/
def sextet? (char : Char) : Option Nat :=
  let code := char.toNat
  if 65 ≤ code ∧ code ≤ 90 then some (code - 65)
  else if 97 ≤ code ∧ code ≤ 122 then some (code - 97 + 26)
  else if 48 ≤ code ∧ code ≤ 57 then some (code - 48 + 52)
  else if char = '+' then some 62
  else if char = '/' then some 63
  else none

/-- Three octets make four characters; one or two left over are padded to four. -/
def encode : List UInt8 → List Char
  | [] => []
  | [first] =>
      let bits := first.toNat * 16
      [symbol (bits / 64), symbol (bits % 64), pad, pad]
  | [first, second] =>
      let bits := (first.toNat * 256 + second.toNat) * 4
      [symbol (bits / 4096), symbol (bits / 64 % 64), symbol (bits % 64), pad]
  | first :: second :: third :: rest =>
      let bits := (first.toNat * 256 + second.toNat) * 256 + third.toNat
      symbol (bits / 262144) :: symbol (bits / 4096 % 64) :: symbol (bits / 64 % 64) ::
        symbol (bits % 64) :: encode rest

/-- The octets that six-bit values make up. Bits short of an octet at the end are spare. -/
def octets : List Nat → List UInt8
  | a :: b :: c :: d :: rest =>
      let bits := ((a * 64 + b) * 64 + c) * 64 + d
      UInt8.ofNat (bits / 65536) :: UInt8.ofNat (bits / 256) :: UInt8.ofNat bits :: octets rest
  | [a, b, c] =>
      let bits := (a * 64 + b) * 64 + c
      [UInt8.ofNat (bits / 1024), UInt8.ofNat (bits / 4)]
  | [a, b] => [UInt8.ofNat ((a * 64 + b) / 16)]
  | _ => []

/-- Whether this much padding may follow a body of this length. -/
def padded (body padding : Nat) : Bool :=
  match body % 4 with
  | 0 => body ≠ 0 || padding = 0
  | 2 => padding = 2
  | 3 => padding = 1
  | _ => false

/-- The octets that a text stands for, unless it is malformed. -/
def decode? (text : List Char) : Option (List UInt8) :=
  let body := text.takeWhile (· != pad)
  let padding := text.dropWhile (· != pad)
  if padding.all (· == pad) && padded body.length padding.length then
    (body.mapM sextet?).map octets
  else none

end Rollout.Text.Base64
