import Rollout.Proofs.Json.Integer
import Rollout.Proofs.Schema.Numerals

/-!
# Unsigned integers there and back

A natural number is written by its decimal digits, which are read as that number again and judged by
its size. So what is encoded as an integer of 128 bits is what is accepted as one.
-/

set_option autoImplicit false

namespace Rollout

open Rollout.Number Rollout.Wire

theorem Wire.toList_natCast (number : Nat) :
    (toString (number : Int)).toList = Nat.toDigits 10 number :=
  Json.toList_natural number

private theorem Wire.shows_natCast (number : Nat) :
    Shows (toString (number : Int)) (Nat.toDigits 10 number) :=
  .inl (toList_natCast number)

private theorem Wire.digits_toDigits (number : Nat) : Digits (Nat.toDigits 10 number) := by
  intro char member
  exact Json.isDigit_of_mem member

private theorem Number.readInt_natCast {number : Nat} (short : number < 10 ^ digitLimit) :
    readInt (toString (number : Int)) = .ok number := by
  have few := Nat.not_lt.mpr (Json.length_toDigits_le short)
  rw [readInt_of_shows (shows_natCast number) Nat.toDigits_ne_nil (digits_toDigits number),
    if_neg few, Nat.ofDigitChars_ten_toDigits]

namespace Schema.Kind

variable {kind : Kind} {given : String} {body : List Char}

private theorem check_of_short (account : String) (numeral : kind ∈ numerals) (shown : Shows given body)
    (nonempty : body ≠ []) (digits : Digits body) (short : body.length ≤ digitLimit) :
    kind.check account (.text given) =
      .ok (if Nat.ofDigitChars 10 body 0 > kind.limit then some (.range kind given)
        else none) := by
  have formed := isUintText_iff.mpr ⟨body, shown, nonempty, digits⟩
  rw [check_of_mem_numerals account numeral, if_pos formed,
    checkUint_of_shows shown nonempty digits, if_neg (Nat.not_lt.mpr short)]

theorem check_natCast (account : String) (numeral : kind ∈ numerals) {number : Nat}
    (short : number < 10 ^ digitLimit) :
    kind.check account (.text (toString (number : Int))) =
      .ok (if number > kind.limit then some (.range kind (toString (number : Int)))
        else none) := by
  have judged := check_of_short account numeral (shows_natCast number) Nat.toDigits_ne_nil
    (digits_toDigits number) (Json.length_toDigits_le short)
  rwa [Nat.ofDigitChars_ten_toDigits] at judged

end Schema.Kind

namespace Wire

private theorem maxUint128_lt : maxUint128 < 10 ^ digitLimit := by
  have room : 10 ^ 39 ≤ 10 ^ digitLimit := Nat.pow_le_pow_right (by decide) (by decide)
  have small : maxUint128 < 10 ^ 39 := by decide
  exact Nat.lt_of_lt_of_le small room

theorem check_uint128_of_le (account : String) {number : Nat} (within : number ≤ maxUint128) :
    Schema.Kind.uint128.check account (.text (toString (number : Int))) = .ok none := by
  have short := Nat.lt_of_le_of_lt within maxUint128_lt
  have fits : ¬ number > Schema.Kind.uint128.limit := Nat.not_lt.mpr within
  rw [Schema.Kind.check_natCast account (by decide) short, if_neg fits]

/-- Only an integer within the limit is encoded, and it is written by its digits. -/
theorem encodeUint128_eq_ok_iff {value : Value} {text : String} :
    encodeUint128 value = .ok text ↔
      ∃ number : Nat, value = .int number ∧ number ≤ maxUint128 ∧
        text = toString (number : Int) := by
  constructor
  · intro encoded
    unfold encodeUint128 at encoded
    split at encoded
    · next number =>
        split at encoded
        · next within =>
            obtain ⟨natural, rfl⟩ := Int.eq_ofNat_of_zero_le within.1
            cases encoded
            exact ⟨natural, rfl, Int.ofNat_le.mp within.2, rfl⟩
        · split at encoded <;> cases encoded
    · cases encoded
  · rintro ⟨number, rfl, within, rfl⟩
    have fits : (0 : Int) ≤ number ∧ (number : Int) ≤ maxUint128 :=
      ⟨Int.natCast_nonneg _, Int.ofNat_le.mpr within⟩
    simp only [encodeUint128, if_pos fits]

theorem encodeUint128_isOk_iff (number : Int) :
    (∃ text, encodeUint128 (.int number) = .ok text) ↔ 0 ≤ number ∧ number ≤ maxUint128 := by
  constructor
  · rintro ⟨text, encoded⟩
    obtain ⟨natural, same, within, _⟩ := encodeUint128_eq_ok_iff.mp encoded
    cases same
    exact ⟨Int.natCast_nonneg _, Int.ofNat_le.mpr within⟩
  · rintro ⟨positive, within⟩
    obtain ⟨natural, rfl⟩ := Int.eq_ofNat_of_zero_le positive
    exact ⟨_, encodeUint128_eq_ok_iff.mpr ⟨natural, rfl, Int.ofNat_le.mp within, rfl⟩⟩

/-- An integer is encoded just if it is within the limit, and what it is written as is accepted and
is its decimal numeral. A numeral is accepted just if its value is encoded. -/
theorem uint128_accepted_iff_encoded (account : String) :
    (∀ number : Int,
        ((∃ text, encodeUint128 (.int number) = .ok text) ↔
          0 ≤ number ∧ number ≤ maxUint128) ∧
        ∀ text, encodeUint128 (.int number) = .ok text →
          Schema.Kind.uint128.check account (.text text) = .ok none ∧
            readInt text = .ok number ∧
            Digits text.toList ∧ (Nat.ofDigitChars 10 text.toList 0 : Int) = number) ∧
      ∀ given : String, given.toList ≠ [] → Digits given.toList →
        given.toList.length ≤ digitLimit →
          readInt given = .ok (Nat.ofDigitChars 10 given.toList 0 : Int) ∧
            (Schema.Kind.uint128.check account (.text given) = .ok none ↔
              ∃ text, encodeUint128 (.int (Nat.ofDigitChars 10 given.toList 0)) = .ok text) := by
  constructor
  · intro number
    refine ⟨encodeUint128_isOk_iff number, ?_⟩
    intro text encoded
    obtain ⟨natural, same, within, rfl⟩ := encodeUint128_eq_ok_iff.mp encoded
    cases same
    have short := Nat.lt_of_le_of_lt within maxUint128_lt
    refine ⟨check_uint128_of_le account within, readInt_natCast short, ?_, ?_⟩
    · rw [toList_natCast]
      exact digits_toDigits natural
    · rw [toList_natCast, Nat.ofDigitChars_ten_toDigits]
  · intro given nonempty digits short
    have shown : Shows given given.toList := .inl rfl
    constructor
    · rw [readInt_of_shows shown nonempty digits, if_neg (Nat.not_lt.mpr short)]
    · rw [Schema.Kind.check_of_short account (by decide) shown nonempty digits short,
        encodeUint128_isOk_iff]
      simp [Schema.Kind.limit]

/-- The largest integer of 128 bits is encoded and accepted. The next one is refused, whatever zeros
stand before it. -/
theorem largestUint128_accepted :
    encodeUint128 (.int maxUint128) = .ok "340282366920938463463374607431768211455" ∧
      Schema.Kind.uint128.check "terra" (.text "340282366920938463463374607431768211455") =
        .ok none ∧
      "00340282366920938463463374607431768211456".toList ≠ [] ∧
      Digits "00340282366920938463463374607431768211456".toList ∧
      "00340282366920938463463374607431768211456".toList.length ≤ digitLimit ∧
      Schema.Kind.uint128.check "terra" (.text "00340282366920938463463374607431768211456") ≠
        .ok none := by
  obtain ⟨integers, numerals⟩ := uint128_accepted_iff_encoded "terra"
  have encoded : encodeUint128 (.int maxUint128) = .ok "340282366920938463463374607431768211455" :=
    rfl
  have nonempty : "00340282366920938463463374607431768211456".toList ≠ [] := by decide
  have digits : Digits "00340282366920938463463374607431768211456".toList := by decide
  have short : "00340282366920938463463374607431768211456".toList.length ≤ digitLimit := by decide
  refine ⟨encoded, ((integers maxUint128).2 _ encoded).1, nonempty, digits, short, ?_⟩
  intro accepted
  obtain ⟨_, judged⟩ := numerals _ nonempty digits short
  obtain ⟨_, within⟩ := (encodeUint128_isOk_iff _).mp (judged.mp accepted)
  revert within
  decide

end Wire

end Rollout
