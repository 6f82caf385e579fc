import Rollout.Proofs.Wire.Form

/-!
# Accepted numerals

Which texts are accepted as integers and as amounts. Besides the numerals that contracts read, these
are numerals with a line feed behind them.
-/

set_option autoImplicit false

namespace Rollout.Schema

open Rollout.Number Rollout.Wire

namespace Kind

/-- The kinds of unsigned integers that are written as text. -/
def numerals : List Kind := [uint128, uint64, timestamp]

variable {kind : Kind} {given : String}

theorem check_of_mem_numerals (account : String) (numeral : kind ∈ numerals) :
    kind.check account (.text given) =
      if isUintText given then kind.checkUint given
      else .ok (some (.numeral kind (Text.quoted given))) := by
  simp only [numerals, List.mem_cons, List.not_mem_nil, or_false] at numeral
  rcases numeral with rfl | rfl | rfl <;> rfl

theorem checkUint_of_shows {body : List Char} (shown : Shows given body) (nonempty : body ≠ [])
    (digits : Digits body) :
    kind.checkUint given =
      if body.length > digitLimit then .error (.number (.tooLong body.length))
      else
        .ok (if Nat.ofDigitChars 10 body 0 > kind.limit then some (.range kind given)
          else none) := by
  have read := readInt_of_shows shown nonempty digits
  rw [checkUint, read]
  split
  · rfl
  · simp [Except.mapError, bind, Except.bind, pure, Except.pure]

theorem check_uint_eq_none_iff (account : String) (numeral : kind ∈ numerals) :
    kind.check account (.text given) = .ok none ↔
      ∃ body, Shows given body ∧ body ≠ [] ∧ Digits body ∧ body.length ≤ digitLimit ∧
        Nat.ofDigitChars 10 body 0 ≤ kind.limit := by
  rw [check_of_mem_numerals account numeral]
  constructor
  · intro accepted
    split at accepted
    · next formed =>
        obtain ⟨body, shown, nonempty, digits⟩ := isUintText_iff.mp formed
        rw [checkUint_of_shows shown nonempty digits] at accepted
        refine ⟨body, shown, nonempty, digits, ?_⟩
        split at accepted
        · cases accepted
        · next short =>
            refine ⟨Nat.le_of_not_gt short, ?_⟩
            simpa using accepted
    · cases accepted
  · rintro ⟨body, shown, nonempty, digits, short, within⟩
    rw [if_pos (isUintText_iff.mpr ⟨body, shown, nonempty, digits⟩),
      checkUint_of_shows shown nonempty digits, if_neg (Nat.not_lt.mpr short)]
    simpa using within

theorem check_decimal_of_shows (account : String) {amount : Amount}
    (shown : Shows given amount.chars) :
    decimal.check account (.text given) = checkAmount given := by
  have formed := isDecimalText_iff.mpr ⟨amount, shown⟩
  simp [check, checkText, formed]

theorem checkAmount_eq_none_iff {amount : Amount} (shown : Shows given amount.chars) :
    checkAmount given = .ok none ↔ amount.units ≤ roundedLimit := by
  have shownPlain : Shows amount.text amount.chars := shows_ofList amount.chars
  have plain : checkAmount amount.text = .ok none ↔ amount.units ≤ roundedLimit := by
    rw [← check_decimal_of_shows accountPart shownPlain]
    exact amount.check_eq_none_iff accountPart
  rw [← plain, checkAmount, checkAmount, amount.read?_of_shows shown]
  rcases amount.read?_cases with ⟨unread, _⟩ | read
  · simp [unread]
  · rw [read]
    dsimp only
    cases exceedsUnits amount.coefficient (-(amount.fraction.length : Int)) with
    | error fault => simp [bind, Except.bind]
    | ok exceeds => cases exceeds <;> simp [bind, Except.bind, pure, Except.pure]

theorem check_decimal_eq_none_iff (account : String) :
    decimal.check account (.text given) = .ok none ↔
      ∃ amount : Amount, Shows given amount.chars ∧ amount.units ≤ roundedLimit := by
  constructor
  · intro accepted
    have formed : isDecimalText given = true := by
      cases formed : isDecimalText given with
      | true => rfl
      | false => simp [check, checkText, formed] at accepted
    obtain ⟨amount, shown⟩ := isDecimalText_iff.mp formed
    rw [check_decimal_of_shows account shown] at accepted
    exact ⟨amount, shown, (checkAmount_eq_none_iff shown).mp accepted⟩
  · rintro ⟨amount, shown, within⟩
    rw [check_decimal_of_shows account shown]
    exact (checkAmount_eq_none_iff shown).mpr within

end Kind

/-- What is accepted as an integer is a numeral of at most 4300 ASCII digits within the limit of
its kind, and what is accepted as an amount is a numeral with at most 18 places within the rounded
limit. Either may have a line feed behind it. -/
theorem numerals_accepted_iff (account given : String) :
    (∀ kind ∈ Kind.numerals, kind.check account (.text given) = .ok none ↔
        ∃ body, Shows given body ∧ body ≠ [] ∧ Digits body ∧ body.length ≤ digitLimit ∧
          Nat.ofDigitChars 10 body 0 ≤ kind.limit) ∧
      (Kind.decimal.check account (.text given) = .ok none ↔
        ∃ amount : Amount, Shows given amount.chars ∧ amount.units ≤ roundedLimit) := by
  constructor
  · intro kind numeral
    exact Kind.check_uint_eq_none_iff account numeral
  · exact Kind.check_decimal_eq_none_iff account

/-- The largest integer of 64 bits is accepted behind zeros, and the next one is refused. -/
theorem largestUint64_accepted :
    Kind.uint64 ∈ Kind.numerals ∧
      Kind.uint64.check "terra" (.text "0018446744073709551615") = .ok none ∧
      Kind.uint64.check "terra" (.text "18446744073709551616") ≠ .ok none := by
  have numeral : Kind.uint64 ∈ Kind.numerals := by decide
  refine ⟨numeral, ?_, ?_⟩
  · apply ((numerals_accepted_iff "terra" "0018446744073709551615").1 .uint64 numeral).mpr
    exact ⟨"0018446744073709551615".toList, .inl rfl, by decide, by decide, by decide, by decide⟩
  · intro accepted
    obtain ⟨body, shown, _, _, _, within⟩ :=
      ((numerals_accepted_iff "terra" "18446744073709551616").1 .uint64 numeral).mp accepted
    rcases shown with plain | ended
    · rw [← plain] at within
      revert within
      decide
    · have last := congrArg List.getLast? ended
      simp at last

/-- A digit and a line feed are accepted by every kind of number, though no number is written so. -/
theorem lineFeed_accepted :
    (∀ kind ∈ Kind.numerals, kind.check "terra" (.text "1\n") = .ok none) ∧
      Kind.decimal.check "terra" (.text "1\n") = .ok none ∧
      ¬ Digits "1\n".toList := by
  refine ⟨?_, ?_, by decide⟩
  · intro kind numeral
    apply (Kind.check_uint_eq_none_iff "terra" numeral).mpr
    refine ⟨['1'], .inr rfl, by decide, by decide, by decide, ?_⟩
    simp only [Kind.numerals, List.mem_cons, List.not_mem_nil, or_false] at numeral
    rcases numeral with rfl | rfl | rfl <;> decide
  · apply (Kind.check_decimal_eq_none_iff "terra").mpr
    refine ⟨⟨⟨['1'], [], by decide, List.all_eq_true.mp rfl⟩, by decide⟩, .inr rfl, ?_⟩
    decide

end Rollout.Schema
