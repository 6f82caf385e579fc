/-!
# Addresses

A bech32 address: a human-readable part, the separator `1`, and data with its checksum, which is
38 characters long for an address of 20 octets and 58 for one of 32.
-/

set_option autoImplicit false

namespace Rollout.Wire

/-- The characters that data is made of. The separator is not among them. -/
def bech32Charset : List Char :=
  "qpzry9x8gf2tvdw0s3jn54khce6mua7l".toList

/-- The lengths that data may have. -/
def bech32Lengths : List Nat := [38, 58]

def accountPart : String := "terra"

def validatorPart : String := "terravaloper"

/-- What follows the human-readable part and the separator. -/
def addressData? (part text : List Char) : Option (List Char) :=
  let start := part ++ ['1']
  if start.isPrefixOf text then some (text.drop start.length) else none

/-- Whether a text is an address with the given human-readable part. -/
def isAddress (part text : String) : Bool :=
  match addressData? part.toList text.toList with
  | some data => bech32Lengths.contains data.length && data.all bech32Charset.contains
  | none => false

end Rollout.Wire
