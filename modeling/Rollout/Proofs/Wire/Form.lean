import Mathlib.Data.List.TakeWhile
import Rollout.Proofs.Text.Splitting
import Rollout.Proofs.Wire.Amount

/-!
# Forms of numeric texts

Which texts have the form of an unsigned integer or of an amount, and what they are read as. One
line feed at the end is passed over by the forms and by the readers alike.
-/

set_option autoImplicit false

namespace Rollout

namespace Wire

/-- A text is the given characters, or these and a line feed. -/
def Shows (given : String) (body : List Char) : Prop :=
  given.toList = body ∨ given.toList = body ++ ['\n']

def Digits (body : List Char) : Prop :=
  ∀ char ∈ body, char.isDigit = true

instance (body : List Char) : Decidable (Digits body) :=
  List.decidableBAll (fun char : Char => char.isDigit = true) body

variable {given : String} {body : List Char}

theorem shows_ofList (body : List Char) : Shows (String.ofList body) body :=
  .inl String.toList_ofList

private theorem shows_withoutFinalNewline (given : String) :
    Shows given (withoutFinalNewline given.toList) := by
  unfold withoutFinalNewline
  split
  · next ended =>
      apply Or.inr
      exact (List.dropLast_append_getLast? '\n' ended).symm
  · exact .inl rfl

private theorem Shows.withoutFinalNewline_eq (shown : Shows given body) (unended : '\n' ∉ body) :
    withoutFinalNewline given.toList = body := by
  unfold withoutFinalNewline
  rcases shown with plain | ended
  · rw [plain, if_neg]
    intro last
    exact unended (List.mem_of_getLast? last)
  · simp [ended]

private theorem Digits.lineFeed_notMem (digits : Digits body) : '\n' ∉ body := by
  intro member
  cases digits '\n' member

theorem Digits.append {behind : List Char} (digits : Digits body) (others : Digits behind) :
    Digits (body ++ behind) :=
  List.forall_mem_append.mpr ⟨digits, others⟩

/-- Digits are taken up to what follows them. -/
theorem Digits.takeWhile_append (digits : Digits body) (rest : List Char)
    (stops : ∀ char ∈ rest.head?, char.isDigit = false) :
    (body ++ rest).takeWhile Char.isDigit = body ∧
      (body ++ rest).dropWhile Char.isDigit = rest := by
  have whole := List.takeWhile_append_dropWhile (p := Char.isDigit) (l := body ++ rest)
  have left : (body ++ rest).dropWhile Char.isDigit = rest :=
    Text.dropWhile_append_of_pos digits stops
  rw [left, List.append_cancel_right_eq] at whole
  exact ⟨whole, left⟩

theorem digits_takeWhile (text : List Char) : Digits (text.takeWhile Char.isDigit) :=
  fun char member => List.all_eq_true.mp List.all_takeWhile char member

theorem digits_digits (value : Nat) : Digits (Number.digits value) :=
  fun _ member => Nat.isDigit_of_mem_toDigits (by decide) (by decide) member

theorem digits_zeros (count : Nat) : Digits (Number.zeros count) := by
  intro char member
  rw [List.eq_of_mem_replicate member]
  rfl

theorem isUintText_iff :
    isUintText given = true ↔ ∃ body, Shows given body ∧ body ≠ [] ∧ Digits body := by
  constructor
  · intro formed
    refine ⟨withoutFinalNewline given.toList, shows_withoutFinalNewline given, ?_⟩
    simpa [isUintText, Digits] using formed
  · rintro ⟨body, shown, nonempty, digits⟩
    have same := shown.withoutFinalNewline_eq digits.lineFeed_notMem
    simpa [isUintText, same, nonempty, Digits] using digits

end Wire

namespace Text

/-- Trimming takes away the line feed that a text may have behind characters that stay. -/
theorem trim_of_shows {drops : Char → Bool} {given : String} {body : List Char}
    (shown : Wire.Shows given body) (kept : ∀ char ∈ body, drops char = false)
    (dropped : drops '\n' = true) : trim drops given.toList = body := by
  have bare : trim drops body = body := trim_eq_self kept
  rcases shown with plain | ended
  · rw [plain, bare]
  · cases body with
    | nil => simp [ended, trim, dropRight, dropped]
    | cons first rest =>
        have front : drops first = false := kept first List.mem_cons_self
        have whole : (first :: rest ++ ['\n']).dropWhile drops = first :: rest ++ ['\n'] := by
          simp [front]
        rw [trim, dropRight] at bare ⊢
        rw [ended, whole, List.reverse_append, List.reverse_singleton, List.singleton_append,
          List.dropWhile_cons_of_pos dropped]
        simpa [front] using bare

end Text

namespace Number

open Rollout.Text Rollout.Wire

variable {given : String} {body : List Char}

private theorem digitRun_digits (afterDigit : Bool) (digits : Digits body)
    (started : afterDigit = true ∨ body ≠ []) :
    digitRun afterDigit body = some (body.map asciiDigit, []) := by
  induction body generalizing afterDigit with
  | nil => simpa [digitRun] using started
  | cons char rest ih =>
      have digit := digits char List.mem_cons_self
      have others : Digits rest := fun other member => digits other (List.mem_cons_of_mem _ member)
      have separate : char ≠ '_' := by
        rintro rfl
        cases digit
      simp [digitRun, separate, digit?_of_isDigit digit, ih true others (.inl rfl)]

private theorem splitSign_digits (digits : Digits body) : splitSign body = (false, body) := by
  cases body with
  | nil => rfl
  | cons first rest =>
      have digit := digits first List.mem_cons_self
      unfold splitSign
      split
      · next same =>
          cases same
          cases digit
      · next same =>
          cases same
          cases digit
      · rfl

/-- ASCII digits are read as the integer that they are, unless there are too many of them. -/
theorem readInt_of_shows (shown : Shows given body) (nonempty : body ≠ []) (digits : Digits body) :
    readInt given =
      if body.length > digitLimit then .error (.tooLong body.length)
      else .ok (Nat.ofDigitChars 10 body 0 : Int) := by
  have kept : ∀ char ∈ body, isMargin char = false := by
    intro char member
    simp [isMargin, isBlank_of_isDigit (digits char member)]
  have trimmed := trim_of_shows shown kept (by decide)
  have run := digitRun_digits false digits (.inr nonempty)
  simp [readInt, trimmed, splitSign_digits digits, run, signed, ofDigits_map_asciiDigit]

/-- A numeral is read as a decimal in the same way with a line feed behind it. -/
theorem Numeral.read?_of_shows (numeral : Numeral) (shown : Shows given numeral.chars) :
    Decimal.read? given = Decimal.read? numeral.text := by
  have kept : ∀ char ∈ numeral.chars, isBlank char = false := by
    intro char member
    rcases numeral.isDigit_or_point char member with digit | rfl
    · exact isBlank_of_isDigit digit
    · decide
  have trimmed := trim_of_shows shown kept (by decide)
  have plain := trim_of_shows (shows_ofList numeral.chars) kept (by decide)
  simp only [Decimal.read?, Numeral.text, trimmed, plain]

end Number

namespace Wire

open Rollout.Number

variable {given : String}

private theorem split_digits (text : List Char) :
    text.takeWhile Char.isDigit ++ text.dropWhile Char.isDigit = text ∧
      Digits (text.takeWhile Char.isDigit) := by
  refine ⟨List.takeWhile_append_dropWhile, ?_⟩
  intro char member
  exact List.mem_takeWhile_imp member

/-- The form of an amount is that of a numeral with at most 18 places. -/
theorem isDecimalText_iff :
    isDecimalText given = true ↔ ∃ amount : Amount, Shows given amount.chars := by
  constructor
  · intro formed
    have shown := shows_withoutFinalNewline given
    obtain ⟨whole, digits⟩ := split_digits (withoutFinalNewline given.toList)
    unfold isDecimalText at formed
    dsimp only at formed
    generalize withoutFinalNewline given.toList = body at *
    generalize body.takeWhile Char.isDigit = front at *
    generalize body.dropWhile Char.isDigit = behind at *
    subst whole
    split at formed
    · have nonempty : front ≠ [] := by simpa using formed
      refine ⟨⟨⟨front, [], nonempty, by simpa [Digits] using digits⟩, Nat.zero_le _⟩, ?_⟩
      simpa [Numeral.chars] using shown
    · next fraction =>
        simp only [Bool.and_eq_true, Bool.not_eq_true', List.isEmpty_eq_false_iff,
          decide_eq_true_eq, List.all_eq_true] at formed
        obtain ⟨⟨⟨nonempty, behindPoint⟩, few⟩, fractionDigits⟩ := formed
        refine ⟨⟨⟨front, fraction, nonempty, ?_⟩, few⟩, ?_⟩
        · intro char member
          rcases List.mem_append.mp member with inFront | inFraction
          · exact digits char inFront
          · exact fractionDigits char inFraction
        · simpa [Numeral.chars, behindPoint] using shown
    · cases formed
  · rintro ⟨amount, shown⟩
    have unended : '\n' ∉ amount.chars := by
      intro member
      rcases amount.isDigit_or_point '\n' member with digit | point
      · cases digit
      · cases point
    have same := shown.withoutFinalNewline_eq unended
    have plain := (shows_ofList amount.chars).withoutFinalNewline_eq unended
    have formed := amount.isDecimalText_text
    rw [isDecimalText, Numeral.text, plain] at formed
    rw [isDecimalText, same]
    exact formed

end Wire

end Rollout
