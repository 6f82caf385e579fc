import Rollout.Text.Base64

/-!
# Base64 there and back

Octets are cut into six-bit values, which are written by their symbols and padding. Reading finds
the values by their symbols, and the octets by their values.
-/

set_option autoImplicit false

namespace Rollout.Text.Base64

/-- The six-bit values that octets are cut into. -/
def sextets : List UInt8 → List Nat
  | [] => []
  | [first] =>
      let bits := first.toNat * 16
      [bits / 64, bits % 64]
  | [first, second] =>
      let bits := (first.toNat * 256 + second.toNat) * 4
      [bits / 4096, bits / 64 % 64, bits % 64]
  | first :: second :: third :: rest =>
      let bits := (first.toNat * 256 + second.toNat) * 256 + third.toNat
      bits / 262144 :: bits / 4096 % 64 :: bits / 64 % 64 :: bits % 64 :: sextets rest

/-- How much padding follows so many octets. -/
def padding (count : Nat) : Nat :=
  (3 - count % 3) % 3

private theorem encode_eq :
    ∀ given : List UInt8,
      encode given = (sextets given).map symbol ++ List.replicate (padding given.length) pad
  | [] => rfl
  | [_] => rfl
  | [_, _] => rfl
  | first :: second :: third :: rest => by
      have others := encode_eq rest
      have same : padding (rest.length + 3) = padding rest.length := by
        unfold padding
        omega
      simp [encode, sextets, others, same]

private theorem sextets_lt : ∀ (given : List UInt8), ∀ sextet ∈ sextets given, sextet < 64
  | [] => by simp [sextets]
  | [first] => by
      have bounded := first.toNat_lt
      simp [sextets]
      omega
  | [first, second] => by
      have bounded := first.toNat_lt
      have boundedToo := second.toNat_lt
      simp [sextets]
      omega
  | first :: second :: third :: rest => by
      have bounded := first.toNat_lt
      have boundedToo := second.toNat_lt
      have boundedThird := third.toNat_lt
      have others := sextets_lt rest
      simp only [sextets, List.forall_mem_cons]
      exact ⟨by omega, by omega, by omega, by omega, others⟩

private theorem length_sextets :
    ∀ given : List UInt8, (sextets given).length = (4 * given.length + 2) / 3
  | [] => rfl
  | [_] => by simp [sextets]
  | [_, _] => by simp [sextets]
  | first :: second :: third :: rest => by
      have others := length_sextets rest
      simp only [sextets, List.length_cons, others]
      omega

private theorem ofNat_eq {number : Nat} {octet : UInt8} (same : number % 256 = octet.toNat) :
    UInt8.ofNat number = octet := by
  apply UInt8.toNat_inj.mp
  rw [UInt8.toNat_ofNat']
  exact same

private theorem octets_sextets : ∀ given : List UInt8, octets (sextets given) = given
  | [] => rfl
  | [first] => by
      have bounded := first.toNat_lt
      simp only [sextets, octets, List.cons.injEq, and_true]
      exact ofNat_eq (by omega)
  | [first, second] => by
      have bounded := first.toNat_lt
      have boundedToo := second.toNat_lt
      simp only [sextets, octets, List.cons.injEq, and_true]
      exact ⟨ofNat_eq (by omega), ofNat_eq (by omega)⟩
  | first :: second :: third :: rest => by
      have bounded := first.toNat_lt
      have boundedToo := second.toNat_lt
      have boundedThird := third.toNat_lt
      simp only [sextets, octets, octets_sextets rest, List.cons.injEq, and_true]
      exact ⟨ofNat_eq (by omega), ofNat_eq (by omega), ofNat_eq (by omega)⟩

/-!
## Symbols
-/

private theorem sextet?_symbol : ∀ sextet < 64, sextet? (symbol sextet) = some sextet := by decide

private theorem symbol_ne_pad : ∀ sextet < 64, symbol sextet ≠ pad := by decide

private theorem toNat_symbol_lt : ∀ sextet < 64, (symbol sextet).toNat < 0x80 := by decide

private theorem mapM_symbol {values : List Nat} (bounded : ∀ sextet ∈ values, sextet < 64) :
    (values.map symbol).mapM sextet? = some values := by
  induction values with
  | nil => rfl
  | cons first rest ih =>
      obtain ⟨small, others⟩ := List.forall_mem_cons.mp bounded
      rw [List.map_cons, List.mapM_cons, sextet?_symbol first small, ih others]
      rfl

/-- What is written is ASCII. -/
theorem toNat_lt_of_mem_encode (given : List UInt8) :
    ∀ char ∈ encode given, char.toNat < 0x80 := by
  intro char member
  rw [encode_eq, List.mem_append] at member
  rcases member with written | padded
  · obtain ⟨sextet, among, rfl⟩ := List.mem_map.mp written
    exact toNat_symbol_lt sextet (sextets_lt given sextet among)
  · rw [List.eq_of_mem_replicate padded]
    decide

private theorem padded_sextets (given : List UInt8) :
    padded (sextets given).length (padding given.length) = true := by
  have three : given.length % 3 = 0 ∨ given.length % 3 = 1 ∨ given.length % 3 = 2 := by omega
  rw [length_sextets, padding]
  rcases three with none | one | two
  · have whole : (4 * given.length + 2) / 3 % 4 = 0 := by omega
    simp [padded, whole, none]
  · have short : (4 * given.length + 2) / 3 % 4 = 2 := by omega
    simp [padded, short, one]
  · have short : (4 * given.length + 2) / 3 % 4 = 3 := by omega
    simp [padded, short, two]

/-- Octets are given back by what is written for them. -/
theorem decode?_encode (given : List UInt8) : decode? (encode given) = some given := by
  have bounded := sextets_lt given
  have written : ∀ char ∈ (sextets given).map symbol, (char != pad) = true := by
    intro char member
    obtain ⟨sextet, among, rfl⟩ := List.mem_map.mp member
    exact bne_iff_ne.mpr (symbol_ne_pad sextet (bounded sextet among))
  have body : (encode given).takeWhile (· != pad) = (sextets given).map symbol := by
    rw [encode_eq, List.takeWhile_append_of_pos written]
    simp
  have behind : (encode given).dropWhile (· != pad) =
      List.replicate (padding given.length) pad := by
    rw [encode_eq, List.dropWhile_append_of_pos written]
    simp
  have fits := padded_sextets given
  simp [decode?, body, behind, fits, mapM_symbol bounded, octets_sextets]

end Rollout.Text.Base64
