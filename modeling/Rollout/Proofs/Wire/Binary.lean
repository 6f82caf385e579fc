import Rollout.Proofs.Json.Ascii
import Rollout.Proofs.Text.Base64
import Rollout.Proofs.Text.Utf8
import Rollout.Schema.Kind

/-!
# Octets and messages as text

Octets are written as text that is accepted and holds them. The octets of a message are its compact
document in ASCII, and so the message is read from them again.
-/

set_option autoImplicit false

namespace Rollout.Wire

open Rollout.Text

private theorem isBinaryText_encodeOctets (octets : List UInt8) :
    isBinaryText (encodeOctets octets) = .ok true := by
  have ascii : (Base64.encode octets).all (fun char => char.toNat < 0x80) = true := by
    rw [List.all_eq_true]
    intro char member
    exact decide_eq_true (Base64.toNat_lt_of_mem_encode octets char member)
  unfold isBinaryText encodeOctets
  rw [String.toList_ofList, if_pos ascii, Base64.decode?_encode]
  rfl

private theorem check_encodeOctets (account : String) (octets : List UInt8) :
    Schema.Kind.binary.check account (.text (encodeOctets octets)) = .ok none := by
  simp [Schema.Kind.check, Schema.Kind.checkText, isBinaryText_encodeOctets, bind, Except.bind,
    pure, Except.pure]

private theorem decode?_encodeOctets (octets : List UInt8) :
    Base64.decode? (encodeOctets octets).toList = some octets := by
  rw [encodeOctets, String.toList_ofList, Base64.decode?_encode]

/-- The document of a message is written in ASCII. -/
theorem ascii_of_mem_write (message : Value) :
    ∀ char ∈ Json.write .compact 0 message, char.toNat < 0x80 := by
  intro char member
  obtain rfl | visible := Json.drawn_write Json.plain_compact message 0 char member
  · decide
  · omega

private theorem messageOctets_eq (message : Value) :
    messageOctets message = Utf8.encode (Json.print .compact message).toList := by
  rw [Json.print, String.toList_ofList, Utf8.encode_ascii (ascii_of_mem_write message)]
  rfl

private theorem toNat_lt_of_mem_messageOctets (message : Value) :
    ∀ octet ∈ messageOctets message, octet.toNat < 0x80 := by
  intro octet member
  obtain ⟨char, written, rfl⟩ := List.mem_map.mp member
  have small := ascii_of_mem_write message char written
  rw [UInt8.toNat_ofNat']
  omega

private theorem decode_messageOctets (message : Value) :
    Utf8.decode (messageOctets message) = .ok (Json.print .compact message).toList := by
  rw [messageOctets_eq]
  apply Utf8.decode_encode_ascii
  rw [Json.print, String.toList_ofList]
  exact ascii_of_mem_write message

/-- Octets are written as text that is accepted and gives them back. So is a message, whose octets
are ASCII and are read as that message. -/
theorem binary_given_back (account : String) :
    (∀ octets : List UInt8,
        Schema.Kind.binary.check account (.text (encodeOctets octets)) = .ok none ∧
          Base64.decode? (encodeOctets octets).toList = some octets) ∧
      ∀ fields : List (String × Value), Json.Kept (.object fields) →
        ∃ text octets document,
          encodeMessage (.object fields) = .ok text ∧
            Schema.Kind.binary.check account (.text text) = .ok none ∧
            Base64.decode? text.toList = some octets ∧
            (∀ octet ∈ octets, octet.toNat < 0x80) ∧
            Utf8.decode octets = .ok document.toList ∧
            Json.read document = .ok (.object fields) := by
  constructor
  · intro octets
    exact ⟨check_encodeOctets account octets, decode?_encodeOctets octets⟩
  · intro fields kept
    have quotable := Value.isQuotable_iff.mpr (Json.quotable_of_kept kept)
    refine ⟨encodeOctets (messageOctets (.object fields)), messageOctets (.object fields),
      Json.print .compact (.object fields), if_pos quotable, check_encodeOctets account _,
      decode?_encodeOctets _, toNat_lt_of_mem_messageOctets _, decode_messageOctets _, ?_⟩
    exact Json.read_print Json.regular_compact kept

/-- A message with a list and with a character that is escaped by a pair. -/
def nestedMessage : List (String × Value) :=
  [("memo", .text "é😀"), ("path", .list [.object [], .int (-7)])]

theorem nestedMessage_given_back :
    Json.Kept (.object nestedMessage) ∧
      encodeMessage (.object nestedMessage) =
        .ok "eyJtZW1vIjoiXHUwMGU5XHVkODNkXHVkZTAwIiwicGF0aCI6W3t9LC03XX0=" ∧
      ∃ octets document,
        Base64.decode? "eyJtZW1vIjoiXHUwMGU5XHVkODNkXHVkZTAwIiwicGF0aCI6W3t9LC03XX0=".toList =
            some octets ∧
          Utf8.decode octets = .ok document.toList ∧
          Json.read document = .ok (.object nestedMessage) := by
  have kept : Json.Kept (.object nestedMessage) := by
    have short : 7 < 10 ^ Number.digitLimit := by
      have room : 10 ^ 1 ≤ 10 ^ Number.digitLimit := Nat.pow_le_pow_right (by decide) (by decide)
      omega
    simpa [nestedMessage, Json.Kept, Json.KeptFields, Json.KeptItems, Json.KeptScalar,
      Value.text, Value.int] using short
  have shown : encodeMessage (.object nestedMessage) =
      .ok "eyJtZW1vIjoiXHUwMGU5XHVkODNkXHVkZTAwIiwicGF0aCI6W3t9LC03XX0=" := by
    decide +kernel
  obtain ⟨text, octets, document, encoded, _, decoded, _, spelled, read⟩ :=
    (binary_given_back "terra").2 nestedMessage kept
  rw [shown] at encoded
  cases encoded
  exact ⟨kept, shown, octets, document, decoded, spelled, read⟩

end Rollout.Wire
