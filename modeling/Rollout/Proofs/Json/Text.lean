import Rollout.Json.Printer
import Rollout.Json.Reader

/-!
# Texts in documents

A text is read back from its escapes. A character stands for one unit of 16 bits, or for the two of
a surrogate pair, and the units of a text give back its characters.
-/

set_option autoImplicit false

namespace Rollout.Json

/-- The 16-bit units of a character. -/
def units (char : Char) : List Nat :=
  if char.toNat < 0x10000 then [char.toNat]
  else
    [0xd800 + (char.toNat - 0x10000) / 0x400, 0xdc00 + (char.toNat - 0x10000) % 0x400]

theorem toNat_lt (char : Char) : char.toNat < 0x110000 := by
  have valid := char.valid
  rw [UInt32.isValidChar, Nat.isValidChar] at valid
  simp only [Char.toNat]
  omega

private theorem notSurrogate (char : Char) :
    isHighSurrogate char.toNat = false ∧ isLowSurrogate char.toNat = false := by
  have valid := char.valid
  rw [UInt32.isValidChar, Nat.isValidChar] at valid
  simp only [isHighSurrogate, isLowSurrogate, Char.toNat, Bool.and_eq_false_iff,
    decide_eq_false_iff_not]
  omega

private theorem codeChar_toNat (char : Char) : codeChar char.toNat = char := by
  obtain ⟨notHigh, notLow⟩ := notSurrogate char
  rw [codeChar, notHigh, notLow]
  exact Char.ofNat_toNat char

/-- The units of a character in front of others are read as that character. -/
theorem characters_units_append (char : Char) (more : List Nat) :
    characters (units char ++ more) = char :: characters more := by
  have bounded := toNat_lt char
  rw [units]
  split
  · cases more with
    | nil => rw [List.append_nil, characters.eq_2, codeChar_toNat, characters]
    | cons low rest =>
        rw [List.singleton_append, characters, (notSurrogate char).1, codeChar_toNat]
        rfl
  · have high : isHighSurrogate (0xd800 + (char.toNat - 0x10000) / 0x400) = true := by
      simp only [isHighSurrogate, Bool.and_eq_true, decide_eq_true_eq]
      omega
    have low : isLowSurrogate (0xdc00 + (char.toNat - 0x10000) % 0x400) = true := by
      simp only [isLowSurrogate, Bool.and_eq_true, decide_eq_true_eq]
      omega
    have joined : 0x10000 + (0xd800 + (char.toNat - 0x10000) / 0x400 - 0xd800) * 0x400 +
        (0xdc00 + (char.toNat - 0x10000) % 0x400 - 0xdc00) = char.toNat := by
      omega
    simp only [List.cons_append, List.nil_append, characters, high, low, Bool.and_self, if_true,
      pairChar, joined, Char.ofNat_toNat]

private theorem characters_units (text : List Char) : characters (text.flatMap units) = text := by
  induction text with
  | nil => rfl
  | cons char rest ih => rw [List.flatMap_cons, characters_units_append, ih]

private theorem hexDigit?_digitChar :
    ∀ value < 16, hexDigit? (Nat.digitChar value) = some value := by
  decide

private theorem toDigits_sixteen_append {value : Nat} (large : 16 ≤ value) :
    Nat.toDigits 16 value = Nat.toDigits 16 (value / 16) ++ [Nat.digitChar (value % 16)] :=
  Nat.toDigits_of_base_le (by decide) large

theorem hexDigits_four {unit : Nat} (bounded : unit < 0x10000) :
    Text.hexDigits 4 unit =
      [Nat.digitChar (unit / 4096), Nat.digitChar (unit / 256 % 16),
        Nat.digitChar (unit / 16 % 16), Nat.digitChar (unit % 16)] := by
  have second : unit / 16 / 16 = unit / 256 := Nat.div_div_eq_div_mul unit 16 16
  have third : unit / 256 / 16 = unit / 4096 := Nat.div_div_eq_div_mul unit 256 16
  rw [Text.hexDigits]
  by_cases one : unit < 16
  · have absent : unit / 4096 = 0 ∧ unit / 256 % 16 = 0 ∧ unit / 16 % 16 = 0 := by omega
    obtain ⟨high, middle, low⟩ := absent
    rw [Nat.toDigits_of_lt_base one, high, middle, low, Nat.mod_eq_of_lt one]
    rfl
  · rw [toDigits_sixteen_append (by omega)]
    by_cases two : unit / 16 < 16
    · have absent : unit / 4096 = 0 ∧ unit / 256 % 16 = 0 := by omega
      obtain ⟨high, middle⟩ := absent
      rw [Nat.toDigits_of_lt_base two, high, middle, Nat.mod_eq_of_lt two]
      rfl
    · rw [toDigits_sixteen_append (by omega), second]
      by_cases three : unit / 256 < 16
      · have absent : unit / 4096 = 0 := by omega
        rw [Nat.toDigits_of_lt_base three, absent, Nat.mod_eq_of_lt three]
        rfl
      · have four : unit / 4096 < 16 := by omega
        rw [toDigits_sixteen_append (by omega), third, Nat.toDigits_of_lt_base four]
        rfl

private theorem readCodes_unitEscape {unit : Nat} (bounded : unit < 0x10000) (opening : List Char)
    (done : List Nat) {more : List Char} (continues : more ≠ []) :
    readCodes opening done (unitEscape unit ++ more) = readCodes opening (unit :: done) more := by
  have read : unit? (Nat.digitChar (unit / 4096)) (Nat.digitChar (unit / 256 % 16))
      (Nat.digitChar (unit / 16 % 16)) (Nat.digitChar (unit % 16)) = some unit := by
    rw [unit?, hexDigit?_digitChar _ (by omega), hexDigit?_digitChar _ (by omega),
      hexDigit?_digitChar _ (by omega), hexDigit?_digitChar _ (by omega)]
    simp only [Option.bind_eq_bind, Option.bind_some, Option.pure_def, Option.some.injEq]
    omega
  rw [unitEscape, hexDigits_four bounded]
  simp only [List.cons_append, List.nil_append, readCodes, read]
  rw [if_neg (by simpa using continues)]

/-- A character that stands for itself is read as its code. -/
private theorem readCodes_plain {char : Char} (noQuote : char ≠ Text.doubleQuote)
    (noBackslash : char ≠ '\\') (printable : 0x20 ≤ char.toNat) (opening : List Char)
    (done : List Nat) (more : List Char) :
    readCodes opening done (char :: more) = readCodes opening (char.toNat :: done) more := by
  have visible : ¬ char.toNat ≤ 0x1f := by omega
  rw [readCodes, if_neg noQuote, if_neg visible]
  all_goals
    intros
    exact noBackslash ‹_›

private theorem readCodes_pair {high low : Nat} (highSmall : high < 0x10000)
    (lowSmall : low < 0x10000) (opening : List Char) (done : List Nat) {more : List Char}
    (continues : more ≠ []) :
    readCodes opening done (unitEscape high ++ unitEscape low ++ more) =
      readCodes opening ([high, low].reverse ++ done) more := by
  have behind : unitEscape low ++ more ≠ [] := by simp [unitEscape]
  rw [List.append_assoc, readCodes_unitEscape highSmall opening done behind,
    readCodes_unitEscape lowSmall opening (high :: done) continues]
  rfl

private theorem readCodes_escapeChar (char : Char) (opening : List Char) (done : List Nat)
    {more : List Char} (continues : more ≠ []) :
    readCodes opening done (escapeChar char ++ more) =
      readCodes opening ((units char).reverse ++ done) more := by
  have single : ∀ code < 0x10000, char.toNat = code → units char = [code] := by
    rintro code small rfl
    rw [units, if_pos small]
  rw [escapeChar]
  split
  · next quote => rw [single 0x22 (by decide) (by rw [quote]; rfl)]; rfl
  split
  · next backslash => rw [single 0x5c (by decide) (by rw [backslash]; rfl)]; rfl
  split
  · next newline => rw [single 10 (by decide) (by rw [newline]; rfl)]; rfl
  split
  · next carriage => rw [single 13 (by decide) (by rw [carriage]; rfl)]; rfl
  split
  · next tab => rw [single 9 (by decide) (by rw [tab]; rfl)]; rfl
  split
  · next back => rw [single 8 (by decide) back]; rfl
  split
  · next feed => rw [single 12 (by decide) feed]; rfl
  split
  · next noQuote noBackslash _ _ _ _ _ printable =>
      rw [single char.toNat (by omega) rfl]
      exact readCodes_plain noQuote noBackslash printable.1 opening done more
  split
  · next small =>
      rw [single char.toNat small rfl]
      exact readCodes_unitEscape small opening done continues
  · next large =>
      have highSmall : 0xd800 + (char.toNat - 0x10000) / 0x400 < 0x10000 := by
        have bounded := toNat_lt char
        omega
      have lowSmall : 0xdc00 + (char.toNat - 0x10000) % 0x400 < 0x10000 := by omega
      rw [units, if_neg large]
      exact readCodes_pair highSmall lowSmall opening done continues

/-- Escapes are read up to the closing quote. -/
theorem readCodes_escapes (opening : List Char) (text rest : List Char) :
    ∀ done : List Nat,
      readCodes opening done (text.flatMap escapeChar ++ Text.doubleQuote :: rest) =
        .ok (done.reverse ++ text.flatMap units, rest) := by
  induction text with
  | nil =>
      intro done
      rw [List.flatMap_nil, List.flatMap_nil, List.nil_append, List.append_nil]
      rfl
  | cons char others ih =>
      intro done
      have continues : others.flatMap escapeChar ++ Text.doubleQuote :: rest ≠ [] := by simp
      rw [List.flatMap_cons, List.append_assoc, readCodes_escapeChar char opening done continues, ih,
        List.flatMap_cons, List.reverse_append, List.reverse_reverse, List.append_assoc]

/-- A text is read back from between its quotes. -/
theorem readText_escapes (opening : List Char) (text : String) (rest : List Char) :
    readText opening (text.toList.flatMap escapeChar ++ Text.doubleQuote :: rest) =
      .ok (text, rest) := by
  rw [readText, readCodes_escapes, List.reverse_nil, List.nil_append]
  simp only [Except.map, characters_units, String.ofList_toList]

end Rollout.Json
