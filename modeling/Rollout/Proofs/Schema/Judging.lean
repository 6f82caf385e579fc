import Rollout.Proofs.Json.RoundTrip
import Rollout.Proofs.Number.Overflow
import Rollout.Proofs.Schema.Checking
import Rollout.Proofs.Schema.Numerals

/-!
# Values that cannot be judged

A check ends with a verdict unless a text baffles the kind of a leaf, or something has to be quoted
that cannot be. Texts that baffle are numerals with too many digits to be read, amounts that
overflow, and texts outside ASCII where octets are expected. The fault comes through every check
around it, so a message with such a part is neither accepted nor refused.
-/

set_option autoImplicit false

namespace Rollout

open Rollout.Number Rollout.Wire

theorem Wire.Amount.exceedsUnits_eq_error_iff (amount : Amount) :
    (∃ fault, exceedsUnits amount.coefficient (-(amount.fraction.length : Int)) = .error fault) ↔
      Decimal.overflowLimit ≤ amount.units := by
  have few := amount.few
  have scaled : -(amount.fraction.length : Int) + places =
      ((places - amount.fraction.length : Nat) : Int) := by omega
  have limit := Decimal.fit?_eq_none_iff amount.coefficient
    ((places - amount.fraction.length : Nat) : Int)
  rw [Decimal.magnitude_natural, Nat.cast_le] at limit
  rw [amount.units_eq, ← limit, exceedsUnits, Decimal.scaledExceeds?, scaled]
  cases Decimal.fit? amount.coefficient ((places - amount.fraction.length : Nat) : Int) with
  | none => simp
  | some fitted => simp

namespace Schema

namespace Kind

/-- A text that a kind has no verdict on. -/
def Baffles (kind : Kind) (given : String) : Prop :=
  match kind with
  | uint128 | uint64 | timestamp =>
      ∃ body, Shows given body ∧ Digits body ∧ digitLimit < body.length
  | decimal => ∃ amount : Amount, Shows given amount.chars ∧ Decimal.overflowLimit ≤ amount.units
  | binary => ∃ char ∈ given.toList, 0x80 ≤ char.toNat
  | _ => False

variable {kind : Kind} {given : String}

theorem check_numeral_eq_error_iff (account : String) (numeral : kind ∈ numerals) :
    (∃ fault, kind.check account (.text given) = .error fault) ↔
      ∃ body, Shows given body ∧ Digits body ∧ digitLimit < body.length := by
  rw [check_of_mem_numerals account numeral]
  constructor
  · rintro ⟨fault, failed⟩
    split at failed
    · next formed =>
        obtain ⟨body, shown, nonempty, digits⟩ := isUintText_iff.mp formed
        rw [checkUint_of_shows shown nonempty digits] at failed
        split at failed
        · next long => exact ⟨body, shown, digits, long⟩
        · cases failed
    · cases failed
  · rintro ⟨body, shown, digits, long⟩
    have nonempty : body ≠ [] := by
      rintro rfl
      cases long
    rw [if_pos (isUintText_iff.mpr ⟨body, shown, nonempty, digits⟩),
      checkUint_of_shows shown nonempty digits, if_pos long]
    exact ⟨_, rfl⟩

theorem checkAmount_eq_error_iff {amount : Amount} (shown : Shows given amount.chars) :
    (∃ fault, checkAmount given = .error fault) ↔ Decimal.overflowLimit ≤ amount.units := by
  rw [checkAmount, amount.read?_of_shows shown]
  rcases amount.read?_cases with ⟨unread, large⟩ | read
  · have beyond : Decimal.overflowLimit ≤ amount.units :=
      Nat.le_trans Decimal.overflowLimit_le (large _ (by decide))
    rw [unread]
    simp [beyond]
  · rw [read, ← amount.exceedsUnits_eq_error_iff]
    dsimp only
    cases exceedsUnits amount.coefficient (-(amount.fraction.length : Int)) with
    | error fault => simp [bind, Except.bind]
    | ok exceeds => simp [bind, Except.bind, pure, Except.pure]

theorem check_decimal_eq_error_iff (account : String) :
    (∃ fault, decimal.check account (.text given) = .error fault) ↔
      ∃ amount : Amount, Shows given amount.chars ∧ Decimal.overflowLimit ≤ amount.units := by
  constructor
  · rintro ⟨fault, failed⟩
    cases formed : isDecimalText given with
    | false => simp [check, checkText, formed] at failed
    | true =>
        obtain ⟨amount, shown⟩ := isDecimalText_iff.mp formed
        rw [check_decimal_of_shows account shown] at failed
        exact ⟨amount, shown, (checkAmount_eq_error_iff shown).mp ⟨fault, failed⟩⟩
  · rintro ⟨amount, shown, large⟩
    rw [check_decimal_of_shows account shown]
    exact (checkAmount_eq_error_iff shown).mpr large

theorem check_binary_eq_error_iff (account : String) :
    (∃ fault, binary.check account (.text given) = .error fault) ↔
      ∃ char ∈ given.toList, 0x80 ≤ char.toNat := by
  by_cases ascii : ∀ char ∈ given.toList, char.toNat < 0x80
  · have judged : isBinaryText given = .ok (Text.Base64.decode? given.toList).isSome := by
      simpa [isBinaryText] using ascii
    simp only [check, checkText, judged, bind, Except.bind, pure, Except.pure]
    simpa using ascii
  · have unjudged : isBinaryText given = .error .notAscii := by
      simpa [isBinaryText] using ascii
    simp only [check, checkText, unjudged, bind, Except.bind]
    simpa using ascii

theorem check_text_eq_error_iff (account given : String) :
    (∃ fault, kind.check account (.text given) = .error fault) ↔ kind.Baffles given := by
  cases kind with
  | uint128 | uint64 | timestamp => exact check_numeral_eq_error_iff account (by decide)
  | decimal => exact check_decimal_eq_error_iff account
  | binary => exact check_binary_eq_error_iff account
  | address | validatorAddress | text | bool | u8 | u32 | u64 => simp [check, checkText, Baffles]

/-- A kind has no verdict on values that cannot be quoted and on texts that baffle it. -/
theorem check_eq_error_iff (account : String) (value : Value) :
    (∃ fault, kind.check account value = .error fault) ↔
      ¬ value.Quotable ∨ ∃ given, value = .text given ∧ kind.Baffles given := by
  by_cases textual : ∃ given, value = .text given
  · obtain ⟨given, rfl⟩ := textual
    have quotable : (Value.text given).Quotable := trivial
    simp [check_text_eq_error_iff, quotable]
  · have plain : ∀ given, value ≠ .text given := fun given same => textual ⟨given, same⟩
    have judged : (∃ verdict, kind.check account value = .ok verdict) ↔ value.Quotable :=
      check_eq_ok_iff_of_not_text plain
    rw [← judged]
    cases kind.check account value with
    | ok verdict => simp [plain]
    | error fault => simp

end Kind

namespace Catalog

variable {catalog : Catalog} {kind : MessageKind} {name : Scalar} {schema : ContractSchema}
  {message : Value}

private theorem validate_of_problems_eq_error {fault : Fault}
    (known : catalog.find? name = some schema)
    (failed : catalog.problems kind name message = .error fault) :
    catalog.validate kind (.scalar name) message = .error fault := by
  simp [validate, contains, Value.toKey, known, failed, bind, Except.bind]

/-- Validation ends with another fault than a refusal just if a leaf cannot be judged, or a stray
value cannot be quoted. -/
theorem validate_escapes_iff :
    (∃ fault, catalog.validate kind (.scalar name) message = .error fault ∧
        ∀ problems, fault ≠ .invalidMessage name kind problems) ↔
      ∃ schema, catalog.find? name = some schema ∧
        ¬ schema.Judged catalog.account Value.Quotable kind message := by
  constructor
  · rintro ⟨fault, failed, escapes⟩
    obtain ⟨schema, known, _, ⟨problems, _, _, refusal⟩ | ⟨cause, stuck, _⟩⟩ :=
      validate_eq_error failed
    · exact absurd refusal (escapes problems)
    · refine ⟨schema, known, fun judged => ?_⟩
      obtain ⟨problems, found, _⟩ := problems_find known judged
      rw [stuck] at found
      cases found
  · rintro ⟨schema, known, unjudged⟩
    cases reached : catalog.problems kind name message with
    | ok problems => exact absurd (judged_of_problems known reached) unjudged
    | error fault =>
        obtain ⟨cause, rfl⟩ := problems_eq_error known reached
        refine ⟨.wire cause, validate_of_problems_eq_error known reached, ?_⟩
        intro problems same
        cases same

end Catalog

/-- A kind has a verdict on every value, but for texts that baffle it and for values with an integer
that is too long to be quoted, which no document gives. Validation accepts or refuses a message
unless one of its leaves has no verdict or something astray in it cannot be quoted. -/
theorem unjudged_iff (value : Value) :
    (∀ document, Json.read document = .ok value → value.Quotable) ∧
      (∀ (kind : Kind) (account : String),
        (∃ fault, kind.check account value = .error fault) ↔
          ¬ value.Quotable ∨ ∃ given, value = .text given ∧ kind.Baffles given) ∧
      ∀ (catalog : Catalog) (kind : MessageKind) (name : Scalar),
        (∃ fault, catalog.validate kind (.scalar name) value = .error fault ∧
            ∀ problems, fault ≠ .invalidMessage name kind problems) ↔
          ∃ schema, catalog.find? name = some schema ∧
            ¬ schema.Judged catalog.account Value.Quotable kind value := by
  refine ⟨?_, ?_, ?_⟩
  · intro document found
    exact Json.quotable_of_read found
  · intro kind account
    exact kind.check_eq_error_iff account value
  · intro catalog kind name
    exact catalog.validate_escapes_iff

/-- A contract that takes a message for another one. -/
def receiver : ContractSchema := ⟨"receiver", .struct [("msg", .leaf .binary)] [], []⟩

/-- A message with a letter outside ASCII where octets are expected. -/
def accented : Value := .object [("msg", .text "é")]

theorem accented_escapes :
    (∃ fault, Kind.binary.check "terra" (.text "é") = .error fault) ∧
      ∃ fault,
        Catalog.validate ⟨"terra", [receiver]⟩ .instantiate (.text "receiver") accented =
            .error fault ∧
          ∀ problems, fault ≠ .invalidMessage (.text "receiver") .instantiate problems := by
  obtain ⟨_, leaf, _⟩ := unjudged_iff (.text "é")
  have baffling : ∃ fault, Kind.binary.check "terra" (.text "é") = .error fault := by
    apply (leaf .binary "terra").mpr
    exact .inr ⟨"é", rfl, 'é', by decide, by decide⟩
  refine ⟨baffling, ?_⟩
  obtain ⟨_, _, validation⟩ := unjudged_iff accented
  apply (validation ⟨"terra", [receiver]⟩ .instantiate (.text "receiver")).mpr
  refine ⟨receiver, rfl, fun judged => ?_⟩
  obtain ⟨fault, failed⟩ := baffling
  obtain ⟨verdict, found⟩ := judged.1.1 _ rfl
  rw [failed] at found
  cases found

private theorem uint64_check_ones {count : Nat} (long : digitLimit < count) :
    Kind.uint64.check "terra" (.text (String.ofList (List.replicate count '1'))) =
      .error (.number (.tooLong count)) := by
  have shown := shows_ofList (List.replicate count '1')
  have nonempty : List.replicate count '1' ≠ [] := by
    rw [Ne, List.replicate_eq_nil_iff]
    omega
  have digits : Digits (List.replicate count '1') := by
    intro char member
    rw [List.eq_of_mem_replicate member]
    rfl
  rw [Kind.check_of_mem_numerals "terra" (by decide),
    if_pos (isUintText_iff.mpr ⟨_, shown, nonempty, digits⟩),
    Kind.checkUint_of_shows shown nonempty digits, List.length_replicate, if_pos long]

/-- A letter outside ASCII and more digits than are read are not refused: there is no verdict on
them, and none on a message that holds one. -/
theorem baffling_texts_unjudged :
    Kind.binary.check "terra" (.text "é") = .error .notAscii ∧
      Catalog.validate ⟨"terra", [receiver]⟩ .instantiate (.text "receiver") accented =
        .error (.wire .notAscii) ∧
      Kind.uint64.check "terra" (.text (String.ofList (List.replicate 4301 '1'))) =
        .error (.number (.tooLong 4301)) := by
  refine ⟨by rfl, by rfl, ?_⟩
  exact uint64_check_ones (by decide)

end Schema

end Rollout
