/-!
# UTF-8

Text as octets and back. Reading stops at the first ill-formed sequence and says where it
begins, how far its well-formed part reaches and what is wrong with it.
-/

set_option autoImplicit false

namespace Rollout.Text.Utf8

def encodeChar (char : Char) : List UInt8 :=
  let code := char.toNat
  if code < 0x80 then [UInt8.ofNat code]
  else if code < 0x800 then [UInt8.ofNat (0xc0 + code / 64), UInt8.ofNat (0x80 + code % 64)]
  else if code < 0x10000 then
    [UInt8.ofNat (0xe0 + code / 4096), UInt8.ofNat (0x80 + code / 64 % 64),
      UInt8.ofNat (0x80 + code % 64)]
  else
    [UInt8.ofNat (0xf0 + code / 262144), UInt8.ofNat (0x80 + code / 4096 % 64),
      UInt8.ofNat (0x80 + code / 64 % 64), UInt8.ofNat (0x80 + code % 64)]

def encode (text : List Char) : List UInt8 :=
  text.flatMap encodeChar

/-- What is wrong with an ill-formed sequence. -/
inductive Flaw where
  | start
  | continuation
  | unfinished
deriving DecidableEq, Repr

namespace Flaw

def text : Flaw → String
  | start => "invalid start byte"
  | continuation => "invalid continuation byte"
  | unfinished => "unexpected end of data"

end Flaw

/-- An ill-formed sequence: its place, its octets, and its flaw. -/
structure Malformed where
  position : Nat
  octets : List UInt8
  flaw : Flaw
deriving DecidableEq, Repr

/-- Octets that may follow a first octet, as the ranges of the second, third and fourth, and
the bits the first octet gives. The narrower second ranges exclude overlong forms, surrogates
and numbers beyond the last code point. -/
def sequence? (first : Nat) : Option (Nat × List (Nat × Nat)) :=
  if first < 0x80 then some (first, [])
  else if 0xc2 ≤ first ∧ first ≤ 0xdf then some (first - 0xc0, [(0x80, 0xbf)])
  else if first = 0xe0 then some (0, [(0xa0, 0xbf), (0x80, 0xbf)])
  else if first = 0xed then some (0xd, [(0x80, 0x9f), (0x80, 0xbf)])
  else if 0xe1 ≤ first ∧ first ≤ 0xef then some (first - 0xe0, [(0x80, 0xbf), (0x80, 0xbf)])
  else if first = 0xf0 then some (0, [(0x90, 0xbf), (0x80, 0xbf), (0x80, 0xbf)])
  else if 0xf1 ≤ first ∧ first ≤ 0xf3 then
    some (first - 0xf0, [(0x80, 0xbf), (0x80, 0xbf), (0x80, 0xbf)])
  else if first = 0xf4 then some (4, [(0x80, 0x8f), (0x80, 0xbf), (0x80, 0xbf)])
  else none

/-- Reads on through a sequence: `pending` are the ranges still to be met, `code` the bits and
`taken` the octets so far, the last first. -/
def decodeFrom (position : Nat) (pending : List (Nat × Nat)) (code : Nat) (taken : List UInt8) :
    List UInt8 → Except Malformed (List Char)
  | [] =>
      if pending.isEmpty then .ok []
      else .error ⟨position, taken.reverse, .unfinished⟩
  | octet :: rest =>
      match pending with
      | [] =>
          match sequence? octet.toNat with
          | none => .error ⟨position, [octet], .start⟩
          | some (bits, []) => (decodeFrom (position + 1) [] 0 [] rest).map (Char.ofNat bits :: ·)
          | some (bits, ranges) => decodeFrom position ranges bits [octet] rest
      | (low, high) :: further =>
          if low ≤ octet.toNat ∧ octet.toNat ≤ high then
            let code := code * 64 + octet.toNat % 64
            if further.isEmpty then
              (decodeFrom (position + taken.length + 1) [] 0 [] rest).map (Char.ofNat code :: ·)
            else decodeFrom position further code (octet :: taken) rest
          else .error ⟨position, taken.reverse, .continuation⟩

def decode (octets : List UInt8) : Except Malformed (List Char) :=
  decodeFrom 0 [] 0 [] octets

def hexOctet (octet : UInt8) : String :=
  let digits := Nat.toDigits 16 octet.toNat
  String.ofList (List.replicate (2 - digits.length) '0' ++ digits)

/-- The ill-formed sequence in words, by its octet or by the range it covers. -/
def Malformed.message (malformed : Malformed) : String :=
  let last := malformed.position + malformed.octets.length - 1
  match malformed.octets with
  | [octet] =>
      s!"'utf-8' codec can't decode byte 0x{hexOctet octet} in position {malformed.position}: " ++
        malformed.flaw.text
  | _ =>
      s!"'utf-8' codec can't decode bytes in position {malformed.position}-{last}: " ++
        malformed.flaw.text

end Rollout.Text.Utf8
