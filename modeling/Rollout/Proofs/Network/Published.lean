import Rollout.Proofs.Json.Integer
import Rollout.Proofs.Json.Listing
import Rollout.Proofs.Json.Reading
import Rollout.Proofs.Network.PriceList
import Rollout.Proofs.Number.Shortest

/-!
# Published gas prices

What a service publishes is taken as it is shown, whatever it is. So a price is an amount just if
the value in the answer is shown as one, and then it is worth what that value gives.
-/

set_option autoImplicit false

namespace Rollout

namespace Network

open Rollout.Number
open Rollout.Number.Decimal (magnitude withSign)
open Rollout.Wire (Digits digits_digits digits_zeros)

/-- The number that an amount stands for: that of its digits, those behind a point as decimals. -/
def worth (text : List Char) : ℚ :=
  magnitude
    (Nat.ofDigitChars 10
      (text.takeWhile Char.isDigit ++ (text.dropWhile Char.isDigit).drop 1) 0)
    (-((text.dropWhile Char.isDigit).drop 1).length)

section

variable {text fraction : List Char}

private theorem isAmount_of_digits (digits : Digits text) (filled : text ≠ []) :
    IsAmount text ∧ worth text = Nat.ofDigitChars 10 text 0 := by
  have whole := digits.takeWhile_append [] (by simp)
  rw [List.append_nil] at whole
  refine ⟨⟨[], [], text, rfl, List.forall_mem_nil _, .inl rfl, digits, filled⟩, ?_⟩
  rw [worth, whole.1, whole.2]
  simp [magnitude]

private theorem isAmount_pointed (digits : Digits text) (behind : Digits fraction)
    (filled : fraction ≠ []) :
    IsAmount (text ++ '.' :: fraction) ∧
      worth (text ++ '.' :: fraction) =
        magnitude (Nat.ofDigitChars 10 (text ++ fraction) 0) (-fraction.length) := by
  have split := digits.takeWhile_append ('.' :: fraction) (by simp)
  refine ⟨⟨text, ['.'], fraction, by simp, digits, .inr rfl, behind, filled⟩, ?_⟩
  rw [worth, split.1, split.2, List.drop_one, List.tail_cons]

private theorem not_isAmount_of_mem (char : Char) (member : char ∈ text)
    (noDigit : char.isDigit = false) (noPoint : char ≠ '.') : ¬IsAmount text := by
  intro amount
  rcases amount.chars char member with digit | point
  · rw [noDigit] at digit
    cases digit
  · exact noPoint point

private theorem isAmount_positional (coefficient : Nat) (unit : Int) :
    IsAmount (Binary64.positional (digits coefficient) (digitCount coefficient + unit)) ∧
      worth (Binary64.positional (digits coefficient) (digitCount coefficient + unit)) =
        magnitude coefficient unit := by
  have some := digitCount_pos coefficient
  have count : (digits coefficient).length = digitCount coefficient := rfl
  unfold Binary64.positional
  -- the point stands before the digits, behind them or among them
  split
  · obtain ⟨amount, shown⟩ := isAmount_pointed (digits_digits 0)
      ((digits_zeros (-((digitCount coefficient : Int) + unit)).toNat).append
        (digits_digits coefficient))
      (List.append_ne_nil_of_right_ne_nil _ Nat.toDigits_ne_nil)
    refine ⟨amount, shown.trans ?_⟩
    rw [Nat.ofDigitChars_append, Nat.ofDigitChars_append, ofDigitChars_digits, zeros,
      Nat.ofDigitChars_replicate_zero, Nat.mul_zero, ofDigitChars_digits, List.length_append,
      List.length_replicate, count]
    congr 1
    omega
  · split
    · next behind =>
        rw [count] at behind ⊢
        obtain ⟨amount, shown⟩ := isAmount_pointed
          ((digits_digits coefficient).append (digits_zeros
            (((digitCount coefficient : Int) + unit).toNat - digitCount coefficient)))
          (digits_zeros 1) (List.cons_ne_nil _ _)
        obtain ⟨tens, rfl⟩ : ∃ tens : Nat, unit = tens := ⟨unit.toNat, by omega⟩
        refine ⟨amount, shown.trans ?_⟩
        have level :
            ((digitCount coefficient : Int) + tens).toNat - digitCount coefficient = tens := by
          omega
        rw [level, Nat.ofDigitChars_append, Nat.ofDigitChars_append, ofDigitChars_digits, zeros,
          zeros, Nat.ofDigitChars_replicate_zero, Nat.ofDigitChars_replicate_zero, ← mul_assoc,
          ← pow_add, mul_comm, Decimal.magnitude_mul_pow, List.length_replicate]
        congr 1
        omega
    · next positive among =>
        rw [count] at among
        have front : Digits
            ((digits coefficient).take ((digitCount coefficient : Int) + unit).toNat) :=
          fun char member => digits_digits coefficient char (List.mem_of_mem_take member)
        have behind : Digits
            ((digits coefficient).drop ((digitCount coefficient : Int) + unit).toNat) :=
          fun char member => digits_digits coefficient char (List.mem_of_mem_drop member)
        have filled :
            (digits coefficient).drop ((digitCount coefficient : Int) + unit).toNat ≠ [] :=
          mt List.drop_eq_nil_iff.mp among
        obtain ⟨amount, shown⟩ := isAmount_pointed front behind filled
        refine ⟨amount, shown.trans ?_⟩
        rw [List.take_append_drop, ofDigitChars_digits, List.length_drop, count]
        congr 1
        omega

private theorem e_mem_scientific (text : List Char) (exponent : Int) :
    'e' ∈ Binary64.scientific text exponent := by
  simp [Binary64.scientific]

end

/-!
## Values
-/

/-- The values that are shown as amounts: amounts written as texts, whole numbers, and those
floating-point numbers that are shown without a sign and without an exponent. -/
inductive Presentable : Value → Prop where
  | text {text : String} : IsAmount text.toList → Presentable (.text text)
  | whole (count : Nat) : Presentable (.int count)
  | zero : Presentable (.float (.zero false))
  | fractional {significand : Nat} {exponent : Int} :
      magnitude 1 (-4) ≤ Binary64.size significand exponent →
      Binary64.size significand exponent < magnitude 1 16 →
      Presentable (.float (.finite false significand exponent))

/-- The numbers that a value gives: an amount and a whole number give one. A floating-point number
gives a decimal that is read as it, and if there is one of at most fifteen digits, that one. -/
inductive Gives : Value → ℚ → Prop where
  | text (text : String) : Gives (.text text) (worth text.toList)
  | whole (count : Nat) : Gives (.int count) count
  | zero : Gives (.float (.zero false)) 0
  | fractional {significand : Nat} {exponent : Int} {number : ℚ} :
      (∀ coefficient unit, magnitude coefficient unit = number →
        Binary64.ofScaled false coefficient unit = .finite false significand exponent) →
      (∀ coefficient unit, coefficient < 10 ^ 15 →
        Binary64.ofScaled false coefficient unit = .finite false significand exponent →
        magnitude coefficient unit = number) →
      Gives (.float (.finite false significand exponent)) number

/-- A price is what is published of a value: an amount if the value is shown as one, and then of the
worth that the value gives. -/
def Publishes (value : Value) (price : String) : Prop :=
  (IsAmount price.toList ↔ Presentable value) ∧
    (Presentable value → Gives value (worth price.toList))

private theorem publishes_of_mem {value : Value} {price : String} (char : Char)
    (member : char ∈ price.toList) (noDigit : char.isDigit = false) (noPoint : char ≠ '.')
    (none : ¬Presentable value) : Publishes value price :=
  ⟨iff_of_false (not_isAmount_of_mem char member noDigit noPoint) none,
    fun some => absurd some none⟩

private theorem publishes_of_amount {value : Value} {price : String} {number : ℚ}
    (amount : IsAmount price.toList ∧ worth price.toList = number) (some : Presentable value)
    (gives : Gives value number) : Publishes value price :=
  ⟨iff_of_true amount.1 some, fun _ => amount.2 ▸ gives⟩

private theorem publishes_int (value : Int) : Publishes (.int value) (toString value) := by
  by_cases negative : value < 0
  · have sign : '-' ∈ (toString value).toList := by
      rw [Json.toString_eq, decide_eq_true negative]
      exact List.mem_cons_self
    refine publishes_of_mem '-' sign rfl (by decide) ?_
    rintro ⟨⟩
    omega
  · obtain ⟨count, rfl⟩ := Int.eq_ofNat_of_zero_le (Int.not_lt.mp negative)
    have shown : (toString (count : Int)).toList = digits count := Json.toList_natural count
    obtain ⟨amount, value⟩ := isAmount_of_digits (digits_digits count) Nat.toDigits_ne_nil
    rw [ofDigitChars_digits] at value
    refine publishes_of_amount ?_ (.whole count) (.whole count)
    rw [shown]
    exact ⟨amount, value⟩

private theorem publishes_zero : Publishes (.float (.zero false)) (Binary64.zero false).print := by
  obtain ⟨amount, value⟩ := isAmount_pointed (digits_digits 0) (digits_zeros 1)
    (List.cons_ne_nil _ _)
  have none := value.trans (Decimal.magnitude_eq_zero_iff.mpr rfl)
  exact publishes_of_amount ⟨amount, none⟩ .zero .zero

section

variable {significand : Nat} {exponent : Int}

private theorem eq_zero_of_canonical (canonical : Binary64.Canonical 0 exponent) :
    Binary64.finite false 0 exponent = .zero false := by
  have least : exponent = Binary64.minExponent := by
    by_contra differs
    have above := lt_of_le_of_ne canonical.least (Ne.symm differs)
    exact absurd (canonical.full above) (by decide)
  rw [least]
  rfl

/-- Numbers from `10 ^ -4` up have all the digits that a significand may have. -/
theorem full_of_large (canonical : Binary64.Canonical significand exponent)
    (large : magnitude 1 (-4) ≤ Binary64.size significand exponent) :
    Binary64.significandBound / 2 ≤ significand := by
  refine canonical.full ?_
  by_contra least
  have small : (2 : ℚ) ^ exponent ≤ 2 ^ (-67 : Int) :=
    zpow_le_zpow_right₀ one_le_two (by rw [Binary64.minExponent] at least; omega)
  have below : (significand : ℚ) ≤ 2 ^ 53 := by
    rw [← Binary64.bound_eq]
    exact_mod_cast canonical.below.le
  have most : Binary64.size significand exponent ≤ 2 ^ 53 * 2 ^ (-67 : Int) :=
    mul_le_mul below small (Binary64.two_zpow_pos exponent).le (by norm_num)
  have apart : (2 : ℚ) ^ 53 * 2 ^ (-67 : Int) < magnitude 1 (-4) := by norm_num [magnitude]
  linarith

private theorem gives_shortest (canonical : Binary64.Canonical significand exponent)
    (large : magnitude 1 (-4) ≤ Binary64.size significand exponent) :
    Gives (.float (.finite false significand exponent))
      (magnitude (Binary64.shortest significand exponent).1
        (Binary64.shortest significand exponent).2) := by
  have full := full_of_large canonical large
  have nonzero := Binary64.ne_zero_of_full full
  refine .fractional (fun coefficient unit same => ?_) fun coefficient unit short read => ?_
  · refine Binary64.ofScaled_of_covers canonical nonzero ?_ false
    rw [same]
    exact Binary64.covers_shortest canonical nonzero
  · have covers := Binary64.covers_of_ofScaled nonzero read
    exact (Binary64.shortest_of_short canonical full short covers).symm

private theorem publishes_unsigned (canonical : Binary64.Canonical significand exponent)
    (nonzero : significand ≠ 0) :
    Publishes (.float (.finite false significand exponent))
      (Binary64.finite false significand exponent).print := by
  have placed := Binary64.point_iff canonical nonzero
  have shown := Binary64.toList_print false significand exponent
  rw [if_neg nonzero, withSign, if_neg Bool.false_ne_true] at shown
  split at shown
  · next near =>
      obtain ⟨low, high⟩ := placed.mp near
      refine publishes_of_amount ?_ (.fractional low high) (gives_shortest canonical low)
      rw [shown]
      exact isAmount_positional _ _
  · next far =>
      have marked : 'e' ∈ (Binary64.finite false significand exponent).print.toList := by
        rw [shown]
        exact e_mem_scientific _ _
      refine publishes_of_mem 'e' marked rfl (by decide) ?_
      rintro (_ | _ | _ | ⟨low, high⟩)
      · exact nonzero rfl
      · exact far (placed.mpr ⟨low, high⟩)

end

private theorem publishes_float {value : Binary64} (regular : value.Regular) :
    Publishes (.float value) value.print := by
  cases value with
  | nan => exact publishes_of_mem 'n' (by decide) rfl (by decide) nofun
  | infinite negative =>
      cases negative with
      | false => exact publishes_of_mem 'i' (by decide) rfl (by decide) nofun
      | true => exact publishes_of_mem 'i' (by decide) rfl (by decide) nofun
  | finite negative significand exponent =>
      cases negative with
      | true =>
          refine publishes_of_mem '-' ?_ rfl (by decide) nofun
          rw [Binary64.toList_print]
          exact List.mem_cons_self
      | false =>
          by_cases zero : significand = 0
          · subst zero
            rw [eq_zero_of_canonical regular]
            exact publishes_zero
          · exact publishes_unsigned regular zero

/-- A floating-point number has the form in which the format has it. -/
def RegularScalar : Scalar → Prop
  | .float value => value.Regular
  | _ => True

private theorem regular_of_readNumber {text rest : List Char} {scalar : Scalar}
    (read : Json.readNumber text = .ok (scalar, rest)) : RegularScalar scalar := by
  unfold Json.readNumber at read
  dsimp only at read
  split at read
  · cases read
  · split at read
    · split at read
      · cases read
      · cases read
        trivial
    · cases read
      exact Binary64.regular_ofScaled _ _ _

private theorem regular_of_readPlain {text rest : List Char} {scalar : Scalar}
    (read : Json.readPlain text = .ok (scalar, rest)) : RegularScalar scalar := by
  unfold Json.readPlain at read
  split at read
  · next word found named =>
      cases read
      have listed := List.mem_of_find?_eq_some named
      simp only [Json.words, List.mem_cons, List.not_mem_nil, or_false, Prod.mk.injEq] at listed
      rcases listed with ⟨_, rfl⟩ | ⟨_, rfl⟩ | ⟨_, rfl⟩ | ⟨_, rfl⟩ | ⟨_, rfl⟩ | ⟨_, rfl⟩
      all_goals trivial
  · exact regular_of_readNumber read

private theorem regular_of_read {document : String} {value : Value}
    (found : Json.read document = .ok value) : value.Holds RegularScalar :=
  Json.holds_of_read (fun _ => trivial) (fun _ _ _ => regular_of_readPlain) found

/-- Every value is shown as it is, and as an amount if it gives one. -/
theorem publishes_display {value : Value} (regular : value.Holds RegularScalar) :
    Publishes value value.display := by
  cases value with
  | scalar scalar =>
      cases scalar with
      | null => exact publishes_of_mem 'N' (by decide) rfl (by decide) nofun
      | bool value =>
          cases value with
          | false => exact publishes_of_mem 'F' (by decide) rfl (by decide) nofun
          | true => exact publishes_of_mem 'T' (by decide) rfl (by decide) nofun
      | int value => exact publishes_int value
      | float value => exact publishes_float regular
      | text text =>
          exact ⟨⟨.text, fun | .text amount => amount⟩, fun _ => .text text⟩
  | list items =>
      refine publishes_of_mem '[' ?_ rfl (by decide) nofun
      simp [Value.display, Value.literal]
  | object fields =>
      refine publishes_of_mem '\x7b' ?_ rfl (by decide) nofun
      simp [Value.display, Value.literal]

/-!
## Answers
-/

private theorem publishes_fields {fields : List (String × Value)}
    (regular : Value.FieldsHold RegularScalar fields) :
    List.Forall₂ (fun field price => price.1 = field.1 ∧ Publishes field.2 price.2) fields
      (fields.map fun field => (field.1, field.2.display)) := by
  induction fields with
  | nil => exact .nil
  | cons field rest ih => exact .cons ⟨rfl, publishes_display regular.1⟩ (ih regular.2)

private theorem nodup_of_read {document : String} {fields : List (String × Value)}
    (found : Json.read document = .ok (.object fields)) : (fields.map (·.1)).Nodup := by
  obtain ⟨listed, _, same⟩ := Json.read_eq_ok_iff.mp found
  cases listed with
  | scalar | list => cases same
  | object listed =>
      cases same
      exact Json.nodup_keys_collect _

private theorem readAnswer_eq (body : String) :
    readAnswer (.response (.int 200) body) =
      match Json.read body with
      | .error (.number fault) => .error (.number fault)
      | .error fault => .error (.network fault.message)
      | .ok (.object (field :: fields)) =>
          .ok ((field :: fields).map fun price => (price.1, price.2.display))
      | .ok other => .error (.response other.literal) := rfl

private theorem readAnswer_of_read {body : String} {fields : List (String × Value)}
    (found : Json.read body = .ok (.object fields)) (filled : fields ≠ []) :
    readAnswer (.response (.int 200) body) =
      .ok (fields.map fun field => (field.1, field.2.display)) := by
  cases fields with
  | nil => exact absurd rfl filled
  | cons field rest => rw [readAnswer_eq, found]

/-- An answer that is a document gives prices if it is an object with any fields, and then one price
for each of them. A price is an amount just if the value is shown as one, and is worth what the
value gives. Denominations that differ only in halves of surrogate pairs count as one, for the reader
replaces these. -/
theorem published_prices (body : String) :
    (∀ fault, Json.read body = .error (.number fault) →
      readAnswer (.response (.int 200) body) = .error (.number fault)) ∧
    (∀ document, Json.read body = .ok document →
      (∀ fields, document = .object fields → fields = []) →
      readAnswer (.response (.int 200) body) = .error (.response document.literal)) ∧
    ∀ fields, Json.read body = .ok (.object fields) → fields ≠ [] →
      (fields.map (·.1)).Nodup ∧
        ∃ prices, readAnswer (.response (.int 200) body) = .ok prices ∧
          List.Forall₂ (fun field price => price.1 = field.1 ∧ Publishes field.2 price.2) fields
            prices := by
  refine ⟨?_, ?_, ?_⟩
  · intro fault refused
    rw [readAnswer_eq, refused]
  · intro document found empty
    rw [readAnswer_eq, found]
    cases document with
    | scalar | list => rfl
    | object fields => rw [empty fields rfl]
  · intro fields found filled
    exact ⟨nodup_of_read found, _, readAnswer_of_read found filled,
      publishes_fields (regular_of_read found)⟩

/-- An answer with a price that is null. -/
def nullPrice : String :=
  "\x7b\"uluna\": null\x7d"

private theorem read_nullPrice : Json.read nullPrice = .ok (.object [("uluna", .null)]) := by
  refine Json.read_eq_ok_iff.mpr ⟨.object [("uluna", .null)], ⟨by decide +kernel, [], ?_, rfl⟩, rfl⟩
  exact .object (.last rfl (.plain rfl) rfl)

/-- A price that is null is published, as a text that is no amount. -/
theorem nullPrice_published :
    readAnswer (.response (.int 200) nullPrice) = .ok [("uluna", "None")] ∧
      ¬IsAmount "None".toList :=
  ⟨readAnswer_of_read read_nullPrice (List.cons_ne_nil _ _),
    not_isAmount_of_mem 'N' (by decide) rfl (by decide)⟩

end Network

end Rollout
