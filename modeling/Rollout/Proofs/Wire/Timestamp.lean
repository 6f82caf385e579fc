import Rollout.Proofs.Wire.Clock
import Rollout.Proofs.Wire.Uint

/-!
# Instants as text

A moment is written as the nanoseconds from the start of 1970 to its instant, whatever its distance
from universal time, unless it is before. Up to the largest number of 64 bits it is accepted.
-/

set_option autoImplicit false

namespace Rollout.Wire

open Rollout.Number

private theorem Span.nanoseconds_ofMicroseconds (count : Int) :
    (Span.ofMicroseconds count).nanoseconds = 1000 * count := by
  simp only [Span.nanoseconds, Span.ofMicroseconds]
  omega

variable {moment other : Moment} {instant : Int}

private theorem encodeTimestamp_of_at (valid : moment.Valid) (placed : moment.At instant) :
    encodeTimestamp moment =
      if instant < 0 then .error (.beforeEpoch moment.print)
      else .ok (toString (1000 * instant)) := by
  obtain rfl := (Moment.at_iff valid instant).mp placed
  have counted : moment.nanoseconds = 1000 * moment.microseconds :=
    Span.nanoseconds_ofMicroseconds _
  by_cases before : moment.microseconds < 0
  · have negative : moment.nanoseconds < 0 := by omega
    rw [encodeTimestamp, if_pos negative, if_pos before]
  · have positive : ¬ moment.nanoseconds < 0 := by omega
    rw [encodeTimestamp, if_neg positive, if_neg before, counted]

private theorem toString_injective {number numberToo : Int} (positive : 0 ≤ number)
    (positiveToo : 0 ≤ numberToo) (same : toString number = toString numberToo) :
    number = numberToo := by
  obtain ⟨natural, rfl⟩ := Int.eq_ofNat_of_zero_le positive
  obtain ⟨naturalToo, rfl⟩ := Int.eq_ofNat_of_zero_le positiveToo
  have digits := congrArg String.toList same
  rw [toList_natCast, toList_natCast] at digits
  have values := congrArg (Nat.ofDigitChars 10 · 0) digits
  simp only [Nat.ofDigitChars_ten_toDigits] at values
  rw [values]

/-- Every moment is at one instant. It is refused just if that is before 1970, and written as the
nanoseconds up to it otherwise: a later instant as a larger number, and the same instant as the same
text. -/
theorem timestamps_embed_instants (valid : moment.Valid) (validToo : other.Valid) :
    ∃ instant instantToo : Int,
      (∀ any, moment.At any ↔ any = instant) ∧
      (∀ any, other.At any ↔ any = instantToo) ∧
      (encodeTimestamp moment = .error (.beforeEpoch moment.print) ↔ instant < 0) ∧
      (0 ≤ instant → encodeTimestamp moment = .ok (toString (1000 * instant))) ∧
      (0 ≤ instant → 0 ≤ instantToo → ∃ number numberToo : Int,
        encodeTimestamp moment = .ok (toString number) ∧
        encodeTimestamp other = .ok (toString numberToo) ∧
        (instant < instantToo ↔ number < numberToo) ∧
        (instant = instantToo ↔ toString number = toString numberToo)) := by
  have here := Moment.at_iff valid
  have there := Moment.at_iff validToo
  have encoded := encodeTimestamp_of_at valid ((here _).mpr rfl)
  have encodedToo := encodeTimestamp_of_at validToo ((there _).mpr rfl)
  generalize moment.microseconds = instant at *
  generalize other.microseconds = instantToo at *
  refine ⟨instant, instantToo, here, there, ?_, ?_, ?_⟩
  · rw [encoded]
    by_cases before : instant < 0
    · simp [before]
    · simp [before]
  · intro after
    rw [encoded, if_neg (Int.not_lt.mpr after)]
  · intro after afterToo
    rw [if_neg (Int.not_lt.mpr after)] at encoded
    rw [if_neg (Int.not_lt.mpr afterToo)] at encodedToo
    refine ⟨1000 * instant, 1000 * instantToo, encoded, encodedToo, by omega, ?_⟩
    constructor
    · intro same
      rw [same]
    · intro same
      have equal := toString_injective (by omega) (by omega) same
      omega

/-- Two clocks that are on different days at the same instant. -/
def leapNight : Moment := ⟨2000, 3, 1, 0, 30, 0, 0, some 3600000000⟩

def leapEvening : Moment := ⟨2000, 2, 29, 18, 30, 0, 0, some (-18000000000)⟩

theorem leapNight_embedded :
    leapNight.Valid ∧ leapEvening.Valid ∧
      leapNight.At 951867000000000 ∧ leapEvening.At 951867000000000 ∧
      encodeTimestamp leapNight = .ok "951867000000000000" ∧
      encodeTimestamp leapEvening = .ok "951867000000000000" := by
  have made : Moment.ofNumbers [2000, 3, 1, 0, 30] (some 3600000000) = .ok leapNight := rfl
  have madeToo : Moment.ofNumbers [2000, 2, 29, 18, 30] (some (-18000000000)) = .ok leapEvening :=
    rfl
  have valid := Moment.valid_of_ofNumbers made
  have validToo := Moment.valid_of_ofNumbers madeToo
  have placed : leapNight.At 951867000000000 := (Moment.at_iff valid _).mpr (by decide)
  have placedToo : leapEvening.At 951867000000000 := (Moment.at_iff validToo _).mpr (by decide)
  obtain ⟨instant, instantToo, here, there, _, encoded, ordered⟩ :=
    timestamps_embed_instants valid validToo
  obtain rfl := (here _).mp placed
  obtain rfl := (there _).mp placedToo
  obtain ⟨_, _, shown, shownToo, _, alike⟩ := ordered (by decide) (by decide)
  have first := encoded (by decide)
  have same : encodeTimestamp leapEvening = encodeTimestamp leapNight := by
    rw [shown, shownToo, alike.mp rfl]
  exact ⟨valid, validToo, placed, placedToo, first, same.trans first⟩

/-!
## Accepted timestamps
-/

/-- The last moment before the nanoseconds exceed 64 bits. -/
def lastMoment : Moment := ⟨2554, 7, 21, 23, 34, 33, 709551, none⟩

def lastInstant : Int := 18446744073709551

private theorem lastMoment_valid : lastMoment.Valid := by
  have made : Moment.ofNumbers [2554, 7, 21, 23, 34, 33, 709551] none = .ok lastMoment := rfl
  exact Moment.valid_of_ofNumbers made

private theorem lastMoment_at : lastMoment.At lastInstant :=
  (Moment.at_iff lastMoment_valid _).mpr (by decide)

private theorem Moment.Valid.instant_lt (valid : moment.Valid) (placed : moment.At instant) :
    instant < 1000000000000000000 := by
  have counted := (Moment.at_iff valid instant).mp placed
  have days := Date.Valid.number_lt valid.reading.date valid.year
  obtain ⟨⟨_, hours, minutes, seconds, microseconds⟩, _, distances⟩ := valid
  have distance : -86400000000 < moment.offset.getD 0 := by
    cases given : moment.offset with
    | none => decide
    | some offset =>
        have near := distances offset given
        simp only [Moment.dayMicroseconds] at near
        simp only [Option.getD_some]
        omega
  simp only [Moment.reading, Date.number] at days hours minutes seconds microseconds
  simp only [Moment.microseconds, Moment.dayNumber, Moment.epochDay] at counted
  omega

/-- What a moment is written as is accepted up to the last moment whose nanoseconds fit 64 bits, and
out of range from then on. -/
theorem encoded_timestamp_accepted_iff {text : String} (account : String) (valid : moment.Valid)
    (encoded : encodeTimestamp moment = .ok text) :
    ∃ instant last : Int, moment.At instant ∧ lastMoment.At last ∧
      (Schema.Kind.timestamp.check account (.text text) = .ok none ↔ instant ≤ last) ∧
      (last < instant → Schema.Kind.timestamp.check account (.text text) =
        .ok (some (.range .timestamp text))) := by
  have placed := (Moment.at_iff valid _).mpr rfl
  have bounded := valid.instant_lt placed
  have written := encodeTimestamp_of_at valid placed
  generalize moment.microseconds = instant at *
  rw [encoded] at written
  split at written
  · cases written
  · next after =>
      have positive : 0 ≤ 1000 * instant := by omega
      obtain ⟨number, counted⟩ := Int.eq_ofNat_of_zero_le positive
      rw [counted] at written
      cases written
      have numeral : Schema.Kind.timestamp ∈ Schema.Kind.numerals := by decide
      have limit : Schema.Kind.timestamp.limit = 18446744073709551615 := by decide
      have short : number < 10 ^ digitLimit := by
        have room : 10 ^ 21 ≤ 10 ^ digitLimit := Nat.pow_le_pow_right (by decide) (by decide)
        omega
      have judged := Schema.Kind.check_natCast account numeral short
      rw [limit] at judged
      refine ⟨instant, lastInstant, placed, lastMoment_at, ?_, ?_⟩
      · rw [judged]
        unfold lastInstant
        split
        · simp only [reduceCtorEq, Except.ok.injEq, false_iff]
          omega
        · simp only [true_iff]
          omega
      · intro later
        have exceeds : number > 18446744073709551615 := by
          unfold lastInstant at later
          omega
        rw [judged, if_pos exceeds]

theorem lastMoment_accepted :
    lastMoment.Valid ∧ encodeTimestamp lastMoment = .ok "18446744073709551000" ∧
      Schema.Kind.timestamp.check "terra" (.text "18446744073709551000") = .ok none := by
  have encoded : encodeTimestamp lastMoment = .ok "18446744073709551000" := rfl
  obtain ⟨instant, last, placed, ended, accepted, _⟩ :=
    encoded_timestamp_accepted_iff "terra" lastMoment_valid encoded
  have here := (Moment.at_iff lastMoment_valid _).mp placed
  have there := (Moment.at_iff lastMoment_valid _).mp ended
  refine ⟨lastMoment_valid, encoded, accepted.mpr ?_⟩
  rw [here, there]

def overdueMoment : Moment := { lastMoment with microsecond := 709552 }

/-- A microsecond later a moment is written all the same, and what is written is refused. -/
theorem overdueMoment_refused :
    overdueMoment.Valid ∧ encodeTimestamp overdueMoment = .ok "18446744073709552000" ∧
      Schema.Kind.timestamp.check "terra" (.text "18446744073709552000") ≠ .ok none := by
  have made : Moment.ofNumbers [2554, 7, 21, 23, 34, 33, 709552] none = .ok overdueMoment := rfl
  refine ⟨Moment.valid_of_ofNumbers made, rfl, ?_⟩
  intro accepted
  cases accepted

end Rollout.Wire
