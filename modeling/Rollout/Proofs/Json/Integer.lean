import Mathlib.Algebra.Ring.Nat
import Rollout.Json.Printer
import Rollout.Json.Reader
import Rollout.Number.Decimal

/-!
# Integers in documents

An integer is written by its decimal digits and read back from them, as long as nothing that could
be a part of it stands behind.
-/

set_option autoImplicit false

namespace Rollout.Json

open Rollout.Number
open Rollout.Number.Decimal (withSign)

/-- What cannot be a part of a number that it follows. -/
def Closed (rest : List Char) : Prop :=
  ∀ char ∈ rest.head?, char.isDigit = false ∧ char ≠ '.' ∧ char ≠ 'e' ∧ char ≠ 'E'

theorem closed_nil : Closed [] := by
  intro char member
  cases member

private theorem ofDigits_toDigits (value : Nat) :
    ofDigits ((Nat.toDigits 10 value).map Text.asciiDigit) = value := by
  rw [ofDigits, List.foldl_map]
  exact Nat.ofDigitChars_eq_foldl.symm.trans Nat.ofDigitChars_ten_toDigits

theorem isDigit_of_mem {value : Nat} {char : Char}
    (member : char ∈ Nat.toDigits 10 value) : char.isDigit = true :=
  Nat.isDigit_of_mem_toDigits (by decide) (by decide) member

theorem toDigits_eq_zero_cons {value : Nat} {rest : List Char}
    (digits : Nat.toDigits 10 value = '0' :: rest) : value = 0 := by
  induction value using Nat.strongRecOn generalizing rest with
  | _ value ih =>
      by_cases small : value < 10
      · rw [Nat.toDigits_of_lt_base small] at digits
        obtain ⟨zero, _⟩ := List.cons.inj digits
        have cases : ∀ number < 10, Nat.digitChar number = '0' → number = 0 := by decide
        exact cases value small zero
      · rw [Nat.toDigits_of_base_le (by decide) (by omega)] at digits
        cases front : Nat.toDigits 10 (value / 10) with
        | nil => exact absurd front Nat.toDigits_ne_nil
        | cons first others =>
            rw [front, List.cons_append] at digits
            obtain ⟨rfl, _⟩ := List.cons.inj digits
            have vanished := ih (value / 10) (by omega) front
            omega

/-- What follows a run of digits does not go on with one. -/
def Stops (rest : List Char) : Prop :=
  ∀ char ∈ rest.head?, char.isDigit = false

theorem Closed.stops {rest : List Char} (closed : Closed rest) : Stops rest :=
  fun char member => (closed char member).1

theorem spanAscii_append {text rest : List Char} (digits : ∀ char ∈ text, char.isDigit = true)
    (stops : Stops rest) : spanAscii (text ++ rest) = (text.map Text.asciiDigit, rest) := by
  rw [spanAscii, List.takeWhile_append_of_pos digits, List.dropWhile_append_of_pos digits]
  cases rest with
  | nil => simp
  | cons char others =>
      have noDigit := stops char rfl
      simp [noDigit]

/-- The digits of a whole number: a zero in front stands alone. -/
structure Leading (text : List Char) : Prop where
  nonempty : text ≠ []
  digits : ∀ char ∈ text, char.isDigit = true
  zero : ∀ rest, text = '0' :: rest → rest = []

theorem leading_toDigits (value : Nat) : Leading (Nat.toDigits 10 value) where
  nonempty := Nat.toDigits_ne_nil
  digits := fun _ member => isDigit_of_mem member
  zero := by
    intro rest front
    obtain rfl := toDigits_eq_zero_cons front
    rw [Nat.toDigits_zero] at front
    exact (List.cons.inj front).2.symm

private theorem Leading.readWhole_append {text rest : List Char} (leading : Leading text)
    (stops : Stops rest) : readWhole (text ++ rest) = (text.map Text.asciiDigit, rest) := by
  cases text with
  | nil => exact absurd rfl leading.nonempty
  | cons first others =>
      by_cases zero : first = '0'
      · subst zero
        obtain rfl := leading.zero others rfl
        rfl
      · rw [readWhole, List.cons_append]
        · exact spanAscii_append leading.digits stops
        · intro others' shape
          exact zero (List.cons.inj shape).1

/-- A text begins like a number, with a digit or with a sign and a digit. -/
def Numeric (text : List Char) : Prop :=
  ∃ first others, first.isDigit = true ∧ (text = first :: others ∨ text = '-' :: first :: others)

theorem Leading.numeric {whole : List Char} (leading : Leading whole) (behind : List Char)
    (negative : Bool) : Numeric (withSign negative (whole ++ behind)) := by
  cases whole with
  | nil => exact absurd rfl leading.nonempty
  | cons first others =>
      refine ⟨first, others ++ behind, leading.digits first List.mem_cons_self, ?_⟩
      cases negative
      · exact .inl rfl
      · exact .inr rfl

/-- Behind the whole part, a fraction and an exponent are looked for. -/
theorem Leading.readNumber_append {whole behind : List Char} (leading : Leading whole)
    (stops : Stops behind) (negative : Bool) :
    readNumber (withSign negative whole ++ behind) =
      let (fraction, rest) := readFraction behind
      let (exponent, rest) := readExponent rest
      if fraction.isEmpty && exponent.isNone then
        if whole.length > digitLimit then .error (.number (.tooLong whole.length))
        else .ok (.int (signed negative (ofDigits (whole.map Text.asciiDigit))), rest)
      else
        let unit := exponent.getD 0 - (fraction.length : Int)
        .ok (.float (Binary64.ofScaled negative
          (ofDigits (whole.map Text.asciiDigit ++ fraction)) unit), rest) := by
  have found := leading.readWhole_append stops
  have count : (whole.map Text.asciiDigit).length = whole.length := List.length_map _
  cases whole with
  | nil => exact absurd rfl leading.nonempty
  | cons first others =>
      have unsigned : first ≠ '-' := by
        rintro rfl
        cases leading.digits _ List.mem_cons_self
      generalize values : (first :: others).map Text.asciiDigit = read at found count ⊢
      have some : read ≠ [] := by
        rw [← values]
        exact List.cons_ne_nil _ _
      rw [List.cons_append] at found
      unfold readNumber
      cases negative with
      | false => simp [withSign, found, unsigned, count]
      | true => simp [withSign, found, count]

theorem ne_of_isDigit {first : Char} (digit : first.isDigit = true) (letter : Char)
    (noDigit : letter.isDigit = false) : letter ≠ first := by
  intro same
  rw [same, digit] at noDigit
  cases noDigit

theorem Numeric.readPlain_append {text : List Char} (numeric : Numeric text) (rest : List Char) :
    readPlain (text ++ rest) = readNumber (text ++ rest) := by
  obtain ⟨first, others, digit, shape⟩ := numeric
  have differs := ne_of_isDigit digit
  have unworded : words.find? (fun word => word.1.isPrefixOf (text ++ rest)) = none := by
    rcases shape with rfl | rfl
    · simp [words, differs]
    · simp [words, differs]
  rw [readPlain, unworded]

private theorem readFraction_closed {rest : List Char} (closed : Closed rest) :
    readFraction rest = ([], rest) := by
  cases rest with
  | nil => rfl
  | cons char others =>
      obtain ⟨_, noPoint, _⟩ := closed char rfl
      rw [readFraction]
      intro others' shape
      exact noPoint (List.cons.inj shape).1

theorem readExponent_closed {rest : List Char} (closed : Closed rest) :
    readExponent rest = (none, rest) := by
  cases rest with
  | nil => rfl
  | cons char others =>
      obtain ⟨_, _, noSmall, noLarge⟩ := closed char rfl
      simp [readExponent, noSmall, noLarge]

theorem length_toDigits_le {value : Nat} (bounded : value < 10 ^ digitLimit) :
    (Nat.toDigits 10 value).length ≤ digitLimit :=
  (Nat.length_toDigits_le_iff (by decide) (by decide)).mpr bounded

theorem toList_natural (value : Nat) :
    (toString (Int.ofNat value)).toList = Nat.toDigits 10 value := Nat.toList_repr

private theorem toList_negative (value : Nat) :
    (toString (Int.negSucc value)).toList = '-' :: Nat.toDigits 10 (value + 1) := by
  change ("-" ++ (value + 1).repr).toList = _
  rw [String.toList_append, Nat.toList_repr]
  rfl

theorem toString_eq (value : Int) :
    (toString value).toList = withSign (value < 0) (Nat.toDigits 10 value.natAbs) := by
  cases value with
  | ofNat value =>
      rw [toList_natural]
      simp [withSign]
  | negSucc value =>
      rw [toList_negative]
      simp [withSign]

private theorem signed_natAbs (value : Int) : signed (value < 0) value.natAbs = value := by
  unfold signed
  split
  · next negative =>
      have below := of_decide_eq_true negative
      simp only [Int.ofNat_eq_natCast]
      omega
  · next positive =>
      have above := of_decide_eq_false (Bool.eq_false_iff.mpr positive)
      simp only [Int.ofNat_eq_natCast]
      omega

theorem numeric_toString (value : Int) : Numeric (toString value).toList := by
  have numeric := (leading_toDigits value.natAbs).numeric [] (value < 0)
  rwa [List.append_nil, ← toString_eq] at numeric

/-- An integer is read back from its numeral. -/
theorem readNumber_toString {value : Int} (bounded : value.natAbs < 10 ^ digitLimit)
    {rest : List Char} (closed : Closed rest) :
    readNumber ((toString value).toList ++ rest) = .ok (.int value, rest) := by
  have short := Nat.not_lt.mpr (length_toDigits_le bounded)
  rw [toString_eq, (leading_toDigits value.natAbs).readNumber_append closed.stops,
    readFraction_closed closed]
  simp [readExponent_closed closed, short, ofDigits_toDigits, signed_natAbs]

end Rollout.Json
