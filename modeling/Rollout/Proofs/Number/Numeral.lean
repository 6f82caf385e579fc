import Mathlib.Algebra.Ring.Nat
import Rollout.Number.Decimal.Reader

/-!
# Numerals in ASCII

Readers that know the digits of every script, the names of infinities and blanks around a number
do nothing special with ASCII digits: they stand for the number that they are.
-/

set_option autoImplicit false

namespace Rollout

namespace Text

variable {char : Char} {text : List Char}

theorem toNat_of_isDigit (digit : char.isDigit = true) :
    48 ≤ char.toNat ∧ char.toNat ≤ 57 := by
  simp only [Char.isDigit, Bool.and_eq_true, decide_eq_true_eq] at digit
  exact digit

theorem digit?_of_isDigit (digit : char.isDigit = true) :
    digit? char = some (asciiDigit char) := by
  obtain ⟨low, high⟩ := toNat_of_isDigit digit
  have found : scriptZeros.find? (fun first => first ≤ char.toNat && char.toNat < first + 10) =
      some 0x30 := by
    -- the digits of ASCII are looked for first
    refine List.find?_cons_of_pos ?_
    simp only [Bool.and_eq_true, decide_eq_true_eq]
    omega
  rw [digit?, found]
  rfl

/-- No character that ASCII shows is blank. -/
theorem isBlank_of_shown (low : 33 ≤ char.toNat) (high : char.toNat ≤ 126) :
    isBlank char = false := by
  simp only [isBlank, Bool.or_eq_false_iff, Bool.and_eq_false_iff, decide_eq_false_iff_not,
    beq_eq_false_iff_ne]
  omega

theorem isBlank_of_isDigit (digit : char.isDigit = true) : isBlank char = false := by
  obtain ⟨low, high⟩ := toNat_of_isDigit digit
  exact isBlank_of_shown (by omega) (by omega)

private theorem toLower_of_isDigit (digit : char.isDigit = true) : char.toLower = char := by
  obtain ⟨_, high⟩ := toNat_of_isDigit digit
  unfold Char.toLower
  split
  · next letter =>
      have capital : 65 ≤ char.toNat := letter.1
      omega
  · rfl

theorem trim_eq_self {drops : Char → Bool} (kept : ∀ char ∈ text, drops char = false) :
    trim drops text = text := by
  have whole : ∀ characters : List Char, (∀ char ∈ characters, drops char = false) →
      characters.dropWhile drops = characters := by
    intro characters none
    cases characters with
    | nil => rfl
    | cons first rest => simp [none first List.mem_cons_self]
  have reversed := whole text.reverse fun char member => kept char (List.mem_reverse.mp member)
  rw [trim, dropRight, whole text kept, reversed, List.reverse_reverse]

end Text

namespace Number

open Rollout.Text

private theorem spanDigits_append {chars rest : List Char}
    (digits : ∀ char ∈ chars, char.isDigit = true)
    (stop : ∀ char ∈ rest.head?, digit? char = none) :
    spanDigits (chars ++ rest) = (chars.map asciiDigit, rest) := by
  induction chars with
  | nil =>
      cases rest with
      | nil => rfl
      | cons char others => simp [spanDigits, stop char rfl]
  | cons char others ih =>
      have first := digit?_of_isDigit (digits char List.mem_cons_self)
      have behind := ih fun other member => digits other (List.mem_cons_of_mem _ member)
      simp [spanDigits, first, behind]

theorem ofDigits_map_asciiDigit (chars : List Char) :
    ofDigits (chars.map asciiDigit) = Nat.ofDigitChars 10 chars 0 := by
  rw [ofDigits, List.foldl_map, Nat.ofDigitChars_eq_foldl]
  rfl

theorem ofDigitChars_init (chars : List Char) (value : Nat) :
    Nat.ofDigitChars 10 chars value =
      value * 10 ^ chars.length + Nat.ofDigitChars 10 chars 0 := by
  induction chars generalizing value with
  | nil => simp [Nat.ofDigitChars_eq_foldl]
  | cons char rest ih =>
      rw [Nat.ofDigitChars_cons, Nat.ofDigitChars_cons, ih, ih (10 * 0 + _), List.length_cons,
        Nat.pow_succ]
      generalize char.toNat - '0'.toNat = digit
      generalize 10 ^ rest.length = power
      rw [Nat.add_mul, Nat.mul_zero, Nat.zero_add, Nat.mul_comm 10 value, Nat.mul_assoc,
        Nat.mul_comm 10 power]
      omega

/-- ASCII digits with or without a fraction. -/
structure Numeral where
  whole : List Char
  fraction : List Char
  nonempty : whole ≠ []
  digits : ∀ char ∈ whole ++ fraction, char.isDigit = true

namespace Numeral

def chars (numeral : Numeral) : List Char :=
  numeral.whole ++ if numeral.fraction = [] then [] else '.' :: numeral.fraction

def text (numeral : Numeral) : String :=
  String.ofList numeral.chars

/-- The number that all digits make together. -/
def coefficient (numeral : Numeral) : Nat :=
  Nat.ofDigitChars 10 (numeral.whole ++ numeral.fraction) 0

variable (numeral : Numeral)

theorem isDigit_or_point : ∀ char ∈ numeral.chars, char.isDigit = true ∨ char = '.' := by
  intro char member
  unfold chars at member
  rcases List.mem_append.mp member with whole | behind
  · exact .inl (numeral.digits char (List.mem_append_left _ whole))
  · split at behind
    · cases behind
    · rcases List.mem_cons.mp behind with point | fraction
      · exact .inr point
      · exact .inl (numeral.digits char (List.mem_append_right _ fraction))

private theorem takeWhile_chars (numeral : Numeral) :
    numeral.chars.takeWhile Char.isDigit = numeral.whole := by
  have digits : ∀ char ∈ numeral.whole, char.isDigit = true :=
    fun char member => numeral.digits char (List.mem_append_left _ member)
  rw [chars, List.takeWhile_append_of_pos digits]
  split
  · simp
  · simp

/-- The characters of a numeral tell where its fraction begins. -/
theorem chars_injective {left right : Numeral} (same : left.chars = right.chars) :
    left = right := by
  have whole : left.whole = right.whole := by
    rw [← left.takeWhile_chars, ← right.takeWhile_chars, same]
  have fraction : left.fraction = right.fraction := by
    rw [chars, chars, whole, List.append_cancel_left_eq] at same
    split at same
    · next leftEmpty =>
        split at same
        · next rightEmpty => rw [leftEmpty, rightEmpty]
        · cases same
    · split at same
      · cases same
      · exact (List.cons.inj same).2
  cases left
  cases right
  cases whole
  cases fraction
  rfl

theorem exists_head : ∃ first rest, numeral.chars = first :: rest ∧ first.isDigit = true := by
  cases shape : numeral.whole with
  | nil => exact absurd shape numeral.nonempty
  | cons first rest =>
      refine ⟨first, _, by rw [chars, shape]; rfl, numeral.digits first ?_⟩
      simp [shape]

private theorem readScaled_chars :
    readScaled numeral.chars =
      some ((numeral.whole ++ numeral.fraction).map asciiDigit,
        -(numeral.fraction.length : Int)) := by
  have wholeDigits : ∀ char ∈ numeral.whole, char.isDigit = true :=
    fun char member => numeral.digits char (List.mem_append_left _ member)
  have fractionDigits : ∀ char ∈ numeral.fraction, char.isDigit = true :=
    fun char member => numeral.digits char (List.mem_append_right _ member)
  unfold readScaled chars
  by_cases integral : numeral.fraction = []
  · have read : spanDigits (numeral.whole ++ []) = (numeral.whole.map asciiDigit, []) :=
      spanDigits_append wholeDigits (by simp)
    rw [if_pos integral, read]
    simp [integral, numeral.nonempty]
  · have point : digit? '.' = none := by decide
    have read : spanDigits (numeral.whole ++ '.' :: numeral.fraction) =
        (numeral.whole.map asciiDigit, '.' :: numeral.fraction) :=
      spanDigits_append wholeDigits (by simp [point])
    have behind : spanDigits (numeral.fraction ++ []) = (numeral.fraction.map asciiDigit, []) :=
      spanDigits_append fractionDigits (by simp)
    rw [List.append_nil] at behind
    rw [if_neg integral, read]
    simp [behind, integral]

private theorem splitSign_chars : splitSign numeral.chars = (false, numeral.chars) := by
  obtain ⟨first, rest, shape, digit⟩ := numeral.exists_head
  rw [shape]
  unfold splitSign
  split
  · next same =>
      cases same
      cases digit
  · next same =>
      cases same
      cases digit
  · rfl

private theorem afterName?_chars {name : String} {letter : Char} {letters : List Char}
    (spelt : name.toList = letter :: letters) (alphabetic : letter.isDigit = false) :
    Decimal.afterName? name numeral.chars = none := by
  obtain ⟨first, rest, shape, digit⟩ := numeral.exists_head
  unfold Decimal.afterName?
  rw [if_neg]
  intro same
  rw [shape, spelt, List.length_cons, List.take_succ_cons, List.map_cons,
    toLower_of_isDigit digit] at same
  rw [(List.cons.inj same).1, alphabetic] at digit
  cases digit

private theorem notMem_infinityNames :
    String.ofList (numeral.chars.map Char.toLower) ∉ Binary64.infinityNames := by
  obtain ⟨first, rest, shape, digit⟩ := numeral.exists_head
  have differs : ∀ name : String, name.toList.head? = some 'i' →
      String.ofList (numeral.chars.map Char.toLower) ≠ name := by
    rintro _ spelt rfl
    rw [String.toList_ofList, shape, List.map_cons, toLower_of_isDigit digit] at spelt
    cases spelt
    cases digit
  simp only [Binary64.infinityNames, List.mem_cons, List.not_mem_nil, or_false, not_or]
  exact ⟨differs "inf" rfl, differs "infinity" rfl⟩

/-- A numeral is read as the decimal that has its digits and places, unless it is too long. -/
theorem read?_text :
    Decimal.read? numeral.text =
      Decimal.ofScaled? false numeral.coefficient (-(numeral.fraction.length : Int)) := by
  have bare : ∀ char ∈ numeral.chars, isBlank char = false ∧ (char != '_') = true := by
    intro char member
    rcases numeral.isDigit_or_point char member with digit | rfl
    · refine ⟨isBlank_of_isDigit digit, ?_⟩
      rw [bne_iff_ne]
      rintro rfl
      cases digit
    · decide
  have trimmed : trim isBlank numeral.chars = numeral.chars :=
    trim_eq_self fun char member => (bare char member).1
  have filtered : numeral.chars.filter (· != '_') = numeral.chars :=
    List.filter_eq_self.mpr fun char member => (bare char member).2
  have value : ofDigits ((numeral.whole ++ numeral.fraction).map asciiDigit) =
      numeral.coefficient := ofDigits_map_asciiDigit _
  have quiet : Decimal.afterName? "nan" numeral.chars = none :=
    numeral.afterName?_chars rfl rfl
  have signaling : Decimal.afterName? "snan" numeral.chars = none :=
    numeral.afterName?_chars rfl rfl
  unfold Decimal.read? text
  rw [String.toList_ofList, trimmed, filtered, splitSign_chars, ← value]
  simp [Decimal.readMagnitude?, notMem_infinityNames, quiet, signaling, readScaled_chars]

end Numeral

end Number

end Rollout
