import Rollout.Json.Printer
import Rollout.Text.Base64
import Rollout.Value.Quoting
import Rollout.Wire.Fault

/-!
# Octets as text

Contracts take octets in base64. A message for another contract is octets too: its compact JSON
text.
-/

set_option autoImplicit false

namespace Rollout.Wire

def encodeOctets (octets : List UInt8) : String :=
  String.ofList (Text.Base64.encode octets)

/-- The octets of a message, whose text is ASCII. -/
def messageOctets (message : Value) : List UInt8 :=
  (Json.write .compact 0 message).map fun char => UInt8.ofNat char.toNat

/-- Writes a message. Only an object is one, and its integers have to be written. -/
def encodeMessage (message : Value) : Except Fault String :=
  match message with
  | .object _ =>
      if message.isQuotable then .ok (encodeOctets (messageOctets message))
      else .error (.number .unwritable)
  | _ => .error (.octetsRequired message.kindName)

/-- Whether a text holds octets. Only an ASCII text can be judged. -/
def isBinaryText (text : String) : Except Fault Bool :=
  if text.toList.all fun char => char.toNat < 0x80 then
    .ok (Text.Base64.decode? text.toList).isSome
  else .error .notAscii

end Rollout.Wire
