import Mathlib.Logic.Function.Iterate
import Rollout.Proofs.Computation
import Rollout.Proofs.Wire.Calendar

/-!
# Counting microseconds

A clock with a calendar, microsecond by microsecond. Counting its ticks tells at which instant a
moment is, whatever the distance of its clock from universal time.
-/

set_option autoImplicit false

namespace Rollout.Wire

/-- What a clock with a calendar shows. -/
structure Reading where
  date : Date
  hour : Nat
  minute : Nat
  second : Nat
  microsecond : Nat
deriving DecidableEq, Repr

namespace Reading

structure Valid (reading : Reading) : Prop where
  date : reading.date.Valid
  hour : reading.hour < 24
  minute : reading.minute < 60
  second : reading.second < 60
  microsecond : reading.microsecond < 1000000

/-- What the clock shows a microsecond later. -/
def tick : Reading → Reading
  | ⟨date, hour, minute, second, microsecond⟩ =>
      if microsecond < 999999 then ⟨date, hour, minute, second, microsecond + 1⟩
      else if second < 59 then ⟨date, hour, minute, second + 1, 0⟩
      else if minute < 59 then ⟨date, hour, minute + 1, 0, 0⟩
      else if hour < 23 then ⟨date, hour + 1, 0, 0, 0⟩
      else ⟨date.next, 0, 0, 0, 0⟩

/-- The microseconds up to a reading, from a day before the first date on. -/
def count (reading : Reading) : Nat :=
  (((reading.date.number * 24 + reading.hour) * 60 + reading.minute) * 60 + reading.second) *
    1000000 + reading.microsecond

def epoch : Reading := ⟨⟨1970, 1, 1⟩, 0, 0, 0, 0⟩

variable {reading other : Reading}

private theorem valid_mk {date : Date} {hour minute second microsecond : Nat} (valid : date.Valid)
    (hours : hour < 24) (minutes : minute < 60) (seconds : second < 60)
    (microseconds : microsecond < 1000000) : Valid ⟨date, hour, minute, second, microsecond⟩ :=
  ⟨valid, hours, minutes, seconds, microseconds⟩

private theorem count_mk (date : Date) (hour minute second microsecond : Nat) :
    count ⟨date, hour, minute, second, microsecond⟩ =
      (((date.number * 24 + hour) * 60 + minute) * 60 + second) * 1000000 + microsecond :=
  rfl

private theorem count_tick (valid : reading.Valid) : reading.tick.count = reading.count + 1 := by
  obtain ⟨date, hour, minute, second, microsecond⟩ := reading
  obtain ⟨validDate, hours, minutes, seconds, microseconds⟩ := valid
  have tomorrow := Date.number_next validDate
  dsimp only at *
  rw [tick]
  split_ifs
  all_goals
    rw [count_mk, count_mk]
    omega

private theorem Valid.tick (valid : reading.Valid) : reading.tick.Valid := by
  obtain ⟨date, hour, minute, second, microsecond⟩ := reading
  obtain ⟨validDate, hours, minutes, seconds, microseconds⟩ := valid
  dsimp only at *
  rw [Reading.tick]
  split
  · exact valid_mk validDate hours minutes seconds (by omega)
  split
  · exact valid_mk validDate hours minutes (by omega) (by decide)
  split
  · exact valid_mk validDate hours (by omega) (by decide) (by decide)
  split
  · exact valid_mk validDate (by omega) (by decide) (by decide) (by decide)
  · exact valid_mk validDate.next (by decide) (by decide) (by decide) (by decide)

private theorem count_iterate (valid : reading.Valid) (ticks : Nat) :
    (tick^[ticks] reading).Valid ∧ (tick^[ticks] reading).count = reading.count + ticks := by
  induction ticks with
  | zero => exact ⟨valid, (Nat.add_zero _).symm⟩
  | succ ticks ih =>
      obtain ⟨validThen, counted⟩ := ih
      rw [Function.iterate_succ_apply']
      refine ⟨validThen.tick, ?_⟩
      rw [count_tick validThen, counted]
      omega

private theorem count_injective (valid : reading.Valid) (validToo : other.Valid)
    (same : reading.count = other.count) : reading = other := by
  obtain ⟨date, hour, minute, second, microsecond⟩ := reading
  obtain ⟨dateToo, hourToo, minuteToo, secondToo, microsecondToo⟩ := other
  obtain ⟨validDate, hours, minutes, seconds, microseconds⟩ := valid
  obtain ⟨validDateToo, hoursToo, minutesToo, secondsToo, microsecondsToo⟩ := validToo
  dsimp only at *
  rw [count_mk, count_mk] at same
  have sameDate : date.number = dateToo.number := by omega
  obtain rfl := Date.number_injective validDate validDateToo sameDate
  obtain rfl : microsecond = microsecondToo := by omega
  obtain rfl : second = secondToo := by omega
  obtain rfl : minute = minuteToo := by omega
  obtain rfl : hour = hourToo := by omega
  rfl

/-- A clock that shows the first reading shows the second so many microseconds later, or has shown
it as many before where the number is negative. -/
def Elapsed (first second : Reading) (microseconds : Int) : Prop :=
  tick^[microseconds.toNat] first = tick^[(-microseconds).toNat] second

theorem elapsed_iff (valid : reading.Valid) (validToo : other.Valid) (microseconds : Int) :
    Elapsed reading other microseconds ↔ (other.count : Int) = reading.count + microseconds := by
  obtain ⟨validThen, forward⟩ := count_iterate valid microseconds.toNat
  obtain ⟨validThenToo, backward⟩ := count_iterate validToo (-microseconds).toNat
  constructor
  · intro elapsed
    have same := congrArg count elapsed
    rw [forward, backward] at same
    omega
  · intro counted
    apply count_injective validThen validThenToo
    omega

private theorem valid_epoch : epoch.Valid :=
  valid_mk (Date.valid_mk (by decide) (by decide) (by decide) (by decide) (by decide))
    (by decide) (by decide) (by decide) (by decide)

end Reading

namespace Moment

def reading (moment : Moment) : Reading :=
  ⟨⟨moment.year, moment.month, moment.day⟩, moment.hour, moment.minute, moment.second,
    moment.microsecond⟩

/-- A moment of the years 1 to 9999 whose distance from universal time is less than a day. -/
structure Valid (moment : Moment) : Prop where
  reading : moment.reading.Valid
  year : moment.year ≤ 9999
  offset : ∀ distance ∈ moment.offset, distance.natAbs < dayMicroseconds

/-- A moment is at an instant, so many microseconds after the start of 1970 in universal time. At the
start of 1970 its clock showed its distance from universal time past that, and it has gone on
since. -/
def At (moment : Moment) (instant : Int) : Prop :=
  Reading.Elapsed .epoch moment.reading (instant + moment.offset.getD 0)

variable {moment : Moment}

/-- Every moment is at one instant. -/
theorem at_iff (valid : moment.Valid) (instant : Int) :
    moment.At instant ↔ instant = moment.microseconds := by
  have start : Reading.epoch.count = epochDay * 24 * 60 * 60 * 1000000 := rfl
  unfold At
  rw [Reading.elapsed_iff Reading.valid_epoch valid.reading, start]
  simp only [Reading.count, Date.number, reading, microseconds, dayNumber, epochDay]
  omega

/-!
## Moments of numbers
-/

private theorem daysInMonth_eq (year : Nat) {month : Nat} (first : 1 ≤ month) (last : month ≤ 12) :
    daysInMonth year month = Date.lastDay year month := by
  unfold daysInMonth
  split
  · next december =>
      rw [december]
      rfl
  · have more : month < 12 := by omega
    rw [Date.daysBeforeMonth_succ year first more]
    omega

theorem bounded_eq_ok_iff {fault : MomentFault} {first last value : Nat} {number : Int} :
    bounded fault first last number = .ok value ↔
      number = value ∧ first ≤ value ∧ value ≤ last := by
  unfold bounded
  split
  · simp only [Except.ok.injEq]
    omega
  · simp only [reduceCtorEq, false_iff]
    omega

private theorem bounded_natCast (fault : MomentFault) {first last value : Nat} (low : first ≤ value)
    (high : value ≤ last) : bounded fault first last value = .ok value :=
  bounded_eq_ok_iff.mpr ⟨rfl, low, high⟩

def numbers (moment : Moment) : List Int :=
  [moment.year, moment.month, moment.day, moment.hour, moment.minute, moment.second,
    moment.microsecond]

theorem distance_eq_ok_iff {offset found : Option Int} :
    distance offset = .ok found ↔
      offset = found ∧ ∀ given ∈ offset, given.natAbs < dayMicroseconds := by
  cases offset with
  | none => simp [distance]
  | some given =>
      by_cases near : given.natAbs < dayMicroseconds
      · simp [distance, near]
      · simp [distance, near]

theorem valid_of_ofNumbers {numbers : List Int} {offset : Option Int}
    (made : ofNumbers numbers offset = .ok moment) : moment.Valid := by
  obtain ⟨_, near, made⟩ := Computation.bind_eq_ok made
  obtain ⟨rfl, distances⟩ := distance_eq_ok_iff.mp near
  split at made
  · split at made
    · cases made
    · obtain ⟨year, ofYear, made⟩ := Computation.bind_eq_ok made
      obtain ⟨month, ofMonth, made⟩ := Computation.bind_eq_ok made
      obtain ⟨day, ofDay, made⟩ := Computation.bind_eq_ok made
      obtain ⟨hour, ofHour, made⟩ := Computation.bind_eq_ok made
      obtain ⟨minute, ofMinute, made⟩ := Computation.bind_eq_ok made
      obtain ⟨second, ofSecond, made⟩ := Computation.bind_eq_ok made
      obtain ⟨microsecond, ofMicrosecond, made⟩ := Computation.bind_eq_ok made
      cases made
      obtain ⟨_, firstYear, lastYear⟩ := bounded_eq_ok_iff.mp ofYear
      obtain ⟨_, firstMonth, lastMonth⟩ := bounded_eq_ok_iff.mp ofMonth
      obtain ⟨_, firstDay, lastDay⟩ := bounded_eq_ok_iff.mp ofDay
      obtain ⟨_, _, lastHour⟩ := bounded_eq_ok_iff.mp ofHour
      obtain ⟨_, _, lastMinute⟩ := bounded_eq_ok_iff.mp ofMinute
      obtain ⟨_, _, lastSecond⟩ := bounded_eq_ok_iff.mp ofSecond
      obtain ⟨_, _, lastMicrosecond⟩ := bounded_eq_ok_iff.mp ofMicrosecond
      rw [daysInMonth_eq year firstMonth lastMonth] at lastDay
      have date := Date.valid_mk firstYear firstMonth lastMonth firstDay lastDay
      have reading := Reading.valid_mk date (Nat.lt_succ_of_le lastHour)
        (Nat.lt_succ_of_le lastMinute) (Nat.lt_succ_of_le lastSecond)
        (Nat.lt_succ_of_le lastMicrosecond)
      exact ⟨reading, lastYear, distances⟩
  · cases made

private theorem Valid.ofNumbers_eq (valid : moment.Valid) :
    ofNumbers moment.numbers moment.offset = .ok moment := by
  obtain ⟨⟨date, hours, minutes, seconds, microseconds⟩, years, distances⟩ := valid
  obtain ⟨year, month, day, hour, minute, second, microsecond, offset⟩ := moment
  obtain ⟨firstYear, ⟨firstMonth, lastMonth⟩, firstDay, lastDay⟩ := date
  dsimp only [Moment.reading] at *
  rw [← daysInMonth_eq year firstMonth lastMonth] at lastDay
  have near := distance_eq_ok_iff.mpr ⟨rfl, distances⟩
  have ofYear := bounded_natCast (.year year) firstYear years
  have ofMonth := bounded_natCast .month firstMonth lastMonth
  have ofDay := bounded_natCast .day firstDay lastDay
  have ofHour := bounded_natCast (.part "hour" 23) hour.zero_le (Nat.le_of_lt_succ hours)
  have ofMinute := bounded_natCast (.part "minute" 59) minute.zero_le (Nat.le_of_lt_succ minutes)
  have ofSecond := bounded_natCast (.part "second" 59) second.zero_le (Nat.le_of_lt_succ seconds)
  have ofMicrosecond := bounded_natCast (.part "microsecond" 999999) microsecond.zero_le
    (Nat.le_of_lt_succ microseconds)
  simp [ofNumbers, numbers, timePart, near, ofYear, ofMonth, ofDay, ofHour, ofMinute, ofSecond,
    ofMicrosecond, bind, Except.bind, pure, Except.pure]

/-- The valid moments are those that numbers make. -/
theorem valid_iff_made : moment.Valid ↔ ∃ numbers offset, ofNumbers numbers offset = .ok moment :=
  ⟨fun valid => ⟨_, _, valid.ofNumbers_eq⟩, fun ⟨_, _, made⟩ => valid_of_ofNumbers made⟩

end Moment

end Rollout.Wire
