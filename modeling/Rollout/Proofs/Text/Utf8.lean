import Rollout.Text.Utf8

/-!
# ASCII as octets

An ASCII character is a single octet, its code.
-/

set_option autoImplicit false

namespace Rollout.Text.Utf8

variable {text : List Char}

theorem encode_ascii (ascii : ∀ char ∈ text, char.toNat < 0x80) :
    encode text = text.map fun char => UInt8.ofNat char.toNat := by
  induction text with
  | nil => rfl
  | cons first rest ih =>
      obtain ⟨small, others⟩ := List.forall_mem_cons.mp ascii
      have alone : encodeChar first = [UInt8.ofNat first.toNat] := if_pos small
      have behind := ih others
      rw [encode] at behind ⊢
      rw [List.flatMap_cons, alone, behind]
      rfl

private theorem decodeFrom_ascii (ascii : ∀ char ∈ text, char.toNat < 0x80) (position : Nat) :
    decodeFrom position [] 0 [] (text.map fun char => UInt8.ofNat char.toNat) = .ok text := by
  induction text generalizing position with
  | nil => rfl
  | cons first rest ih =>
      obtain ⟨small, others⟩ := List.forall_mem_cons.mp ascii
      have code : (UInt8.ofNat first.toNat).toNat = first.toNat := by
        rw [UInt8.toNat_ofNat']
        omega
      have alone : sequence? first.toNat = some (first.toNat, []) := if_pos small
      simp only [List.map_cons, decodeFrom, code, alone, ih others]
      rw [Except.map, Char.ofNat_toNat]

/-- ASCII characters are read as they were written. -/
theorem decode_encode_ascii (ascii : ∀ char ∈ text, char.toNat < 0x80) :
    decode (encode text) = .ok text := by
  rw [encode_ascii ascii]
  exact decodeFrom_ascii ascii 0

end Rollout.Text.Utf8
