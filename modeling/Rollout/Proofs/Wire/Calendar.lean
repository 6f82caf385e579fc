import Mathlib.Tactic.IntervalCases
import Rollout.Wire.Timestamp

/-!
# Counting days

The Gregorian calendar, day by day, and the numbers of its dates. The day after a date has the next
number, and no two dates share one.
-/

set_option autoImplicit false

namespace Rollout.Wire

structure Date where
  year : Nat
  month : Nat
  day : Nat
deriving DecidableEq, Repr

namespace Date

/-- The last day of a month. Every fourth year is a leap year, but of the full centuries only
every fourth. -/
def lastDay (year month : Nat) : Nat :=
  match month with
  | 2 => if year % 4 = 0 ∧ (year % 100 = 0 → year % 400 = 0) then 29 else 28
  | 4 | 6 | 9 | 11 => 30
  | _ => 31

structure Valid (date : Date) : Prop where
  year : 1 ≤ date.year
  month : 1 ≤ date.month ∧ date.month ≤ 12
  day : 1 ≤ date.day ∧ date.day ≤ lastDay date.year date.month

def next (date : Date) : Date :=
  if date.day < lastDay date.year date.month then ⟨date.year, date.month, date.day + 1⟩
  else if date.month < 12 then ⟨date.year, date.month + 1, 1⟩
  else ⟨date.year + 1, 1, 1⟩

/-- The number of a date, the first day of year 1 being 1. -/
def number (date : Date) : Nat :=
  Moment.daysBeforeYear date.year + Moment.daysBeforeMonth date.year date.month + date.day

variable {date other : Date}

theorem valid_mk {year month day : Nat} (first : 1 ≤ year) (firstMonth : 1 ≤ month)
    (lastMonth : month ≤ 12) (firstDay : 1 ≤ day) (last : day ≤ lastDay year month) :
    Valid ⟨year, month, day⟩ :=
  ⟨first, ⟨firstMonth, lastMonth⟩, firstDay, last⟩

private theorem lastDay_pos (year month : Nat) : 1 ≤ lastDay year month := by
  unfold lastDay
  split
  · split <;> decide
  all_goals decide

theorem isLeap_iff (year : Nat) :
    Moment.isLeap year = true ↔ year % 4 = 0 ∧ (year % 100 = 0 → year % 400 = 0) := by
  simp [Moment.isLeap, imp_iff_not_or]

theorem daysBeforeMonth_succ (year : Nat) {month : Nat} (first : 1 ≤ month) (last : month < 12) :
    Moment.daysBeforeMonth year (month + 1) =
      Moment.daysBeforeMonth year month + lastDay year month := by
  have leap := isLeap_iff year
  unfold Moment.daysBeforeMonth lastDay
  interval_cases month <;> simp [Moment.daysBeforeMonths, ← leap] <;> split <;> rfl

private theorem daysBeforeYear_succ {year : Nat} (first : 1 ≤ year) :
    Moment.daysBeforeYear (year + 1) =
      Moment.daysBeforeYear year + Moment.daysBeforeMonth year 12 + 31 := by
  have leap := isLeap_iff year
  have december : Moment.daysBeforeMonth year 12 = 334 + if Moment.isLeap year then 1 else 0 := rfl
  obtain ⟨past, rfl⟩ := Nat.exists_eq_add_of_le' first
  have fewer : past / 100 ≤ past / 4 := Nat.div_le_div_left (by decide) (by decide)
  have century : (past + 1) % 100 = 0 → (past + 1) % 4 = 0 := by omega
  have fourth : (past + 1) % 400 = 0 → (past + 1) % 100 = 0 := by omega
  -- A quotient grows just where the year is a multiple of the divisor.
  simp only [december, leap, Moment.daysBeforeYear, Nat.add_sub_cancel, Nat.succ_div,
    Nat.dvd_iff_mod_eq_zero]
  grind

private theorem daysBeforeMonth_le (year month : Nat) :
    Moment.daysBeforeMonth year month ≤ 335 := by
  have listed : (Moment.daysBeforeMonths[month - 1]?).getD 0 ≤ 334 := by
    cases found : Moment.daysBeforeMonths[month - 1]? with
    | none => exact Nat.zero_le _
    | some days =>
        have each : ∀ days ∈ Moment.daysBeforeMonths, days ≤ 334 := by decide
        exact each days (List.mem_of_getElem? found)
  unfold Moment.daysBeforeMonth
  split <;> omega

private theorem lastDay_le (year month : Nat) : lastDay year month ≤ 31 := by
  unfold lastDay
  split
  · split <;> decide
  all_goals decide

theorem number_next (valid : date.Valid) : date.next.number = date.number + 1 := by
  obtain ⟨year, ⟨firstMonth, lastMonth⟩, _, last⟩ := valid
  unfold next
  split
  · rfl
  · have ended : date.day = lastDay date.year date.month := by omega
    split
    · next more =>
        simp only [number, daysBeforeMonth_succ date.year firstMonth more]
        omega
    · have december : date.month = 12 := by omega
      rw [december] at ended
      have days : date.day = 31 := ended
      have january : Moment.daysBeforeMonth (date.year + 1) 1 = 0 := rfl
      simp only [number, daysBeforeYear_succ year, january, december]
      omega

theorem Valid.next (valid : date.Valid) : date.next.Valid := by
  obtain ⟨year, ⟨firstMonth, lastMonth⟩, firstDay, last⟩ := valid
  unfold Date.next
  split
  · next more => exact valid_mk year firstMonth lastMonth (by omega) more
  · split
    · next more => exact valid_mk year (by omega) more (Nat.le_refl 1) (lastDay_pos _ _)
    · exact valid_mk (by omega) (Nat.le_refl 1) (by omega) (Nat.le_refl 1) (lastDay_pos _ _)

/-- Every date but the first is the day after another. -/
theorem Valid.exists_previous (valid : date.Valid) (later : date ≠ ⟨1, 1, 1⟩) :
    ∃ previous : Date, previous.Valid ∧ previous.next = date := by
  obtain ⟨year, month, day⟩ := date
  obtain ⟨firstYear, ⟨firstMonth, lastMonth⟩, firstDay, last⟩ := valid
  dsimp only at firstYear firstMonth lastMonth firstDay last
  -- Inside a month, on the first of a month, and on the first of a year.
  by_cases inside : 1 < day
  · have more : day - 1 < lastDay year month := by omega
    have before := valid_mk firstYear firstMonth lastMonth (by omega) (Nat.le_of_lt more)
    refine ⟨⟨year, month, day - 1⟩, before, ?_⟩
    simp only [Date.next, if_pos more, Nat.sub_add_cancel firstDay]
  · obtain rfl : day = 1 := by omega
    by_cases started : 1 < month
    · have more : month - 1 < 12 := by omega
      have before := valid_mk firstYear (by omega) (Nat.le_of_lt more) (lastDay_pos _ _)
        (Nat.le_refl (lastDay year (month - 1)))
      refine ⟨⟨year, month - 1, lastDay year (month - 1)⟩, before, ?_⟩
      simp [Date.next, more, Nat.sub_add_cancel firstMonth]
    · obtain rfl : month = 1 := by omega
      have further : year ≠ 1 := by
        intro first
        exact later (by rw [first])
      have before := valid_mk (by omega : 1 ≤ year - 1) (by decide) (Nat.le_refl 12)
        (by decide) (Nat.le_refl 31)
      refine ⟨⟨year - 1, 12, 31⟩, before, ?_⟩
      simp [Date.next, lastDay, Nat.sub_add_cancel firstYear]

private theorem Valid.number_pos (valid : date.Valid) : 1 ≤ date.number :=
  Nat.le_trans valid.day.1 (Nat.le_add_left _ _)

theorem Valid.number_lt (valid : date.Valid) (bounded : date.year ≤ 9999) :
    date.number < 10000 * 366 := by
  have months := daysBeforeMonth_le date.year date.month
  have days := Nat.le_trans valid.day.2 (lastDay_le date.year date.month)
  have leaps : (date.year - 1) / 4 ≤ 2500 := by omega
  unfold number Moment.daysBeforeYear
  dsimp only
  omega

/-- No two dates have one number. -/
theorem number_injective (valid : date.Valid) (validToo : other.Valid)
    (same : date.number = other.number) : date = other := by
  have first : number ⟨1, 1, 1⟩ = 1 := rfl
  -- By induction on the number, since the dates before them have one number too.
  induction counted : date.number generalizing date other with
  | zero => exact absurd counted (Nat.ne_of_gt valid.number_pos)
  | succ count ih =>
      by_cases start : date = ⟨1, 1, 1⟩
      · by_cases startToo : other = ⟨1, 1, 1⟩
        · rw [start, startToo]
        · obtain ⟨previous, validBefore, rfl⟩ := validToo.exists_previous startToo
          have positive := validBefore.number_pos
          rw [number_next validBefore, start, first] at same
          omega
      · obtain ⟨previous, validBefore, rfl⟩ := valid.exists_previous start
        rw [number_next validBefore] at same counted
        by_cases startToo : other = ⟨1, 1, 1⟩
        · have positive := validBefore.number_pos
          rw [startToo, first] at same
          omega
        · obtain ⟨previousToo, validBeforeToo, rfl⟩ := validToo.exists_previous startToo
          rw [number_next validBeforeToo] at same
          have equal := ih validBefore validBeforeToo (by omega) (by omega)
          rw [equal]

end Date

end Rollout.Wire
