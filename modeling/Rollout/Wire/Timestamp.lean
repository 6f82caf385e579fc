import Rollout.Number.Rounding
import Rollout.Wire.Fault

/-!
# Moments as text

Contracts take a moment as the count of nanoseconds since the start of 1970, as decimal text.
-/

set_option autoImplicit false

namespace Rollout.Wire

open Rollout.Number

/-- A date and a time of day, to the microsecond, with its distance from universal time in
microseconds. Without one the time is universal. -/
structure Moment where
  year : Nat
  month : Nat
  day : Nat
  hour : Nat
  minute : Nat
  second : Nat
  microsecond : Nat
  offset : Option Int
deriving DecidableEq, Repr

namespace Moment

def isLeap (year : Nat) : Bool :=
  year % 4 = 0 && (year % 100 ≠ 0 || year % 400 = 0)

/-- The days of the months before one, in a year without a leap day. -/
def daysBeforeMonths : List Nat :=
  [0, 31, 59, 90, 120, 151, 181, 212, 243, 273, 304, 334]

/-- The days of a year before a month. -/
def daysBeforeMonth (year month : Nat) : Nat :=
  (daysBeforeMonths[month - 1]?).getD 0 + if month > 2 && isLeap year then 1 else 0

def daysInMonth (year month : Nat) : Nat :=
  if month = 12 then 31 else daysBeforeMonth year (month + 1) - daysBeforeMonth year month

/-- The days before a year, counted from year 1. -/
def daysBeforeYear (year : Nat) : Nat :=
  let past := year - 1
  past * 365 + past / 4 - past / 100 + past / 400

/-- The number of a date, the first day of year 1 being 1. -/
def dayNumber (moment : Moment) : Nat :=
  daysBeforeYear moment.year + daysBeforeMonth moment.year moment.month + moment.day

/-- The number of the first day of 1970. -/
def epochDay : Nat := 719163

/-- Microseconds since the start of 1970, universal time. -/
def microseconds (moment : Moment) : Int :=
  let hours := ((moment.dayNumber : Int) - epochDay) * 24 + moment.hour
  let seconds := (hours * 60 + moment.minute) * 60 + moment.second
  seconds * 1000000 + moment.microsecond - moment.offset.getD 0

/-- Nanoseconds since the start of 1970, universal time. -/
def nanoseconds (moment : Moment) : Int :=
  (Span.ofMicroseconds moment.microseconds).nanoseconds

/-- The distance from universal time: hours, minutes, and what is finer if there is any. -/
def offsetText (offset : Int) : List Char :=
  let size := offset.natAbs / 1000000
  let rest := offset.natAbs % 1000000
  let seconds := if size % 60 = 0 && rest = 0 then [] else ':' :: padded 2 (size % 60)
  let fraction := if rest = 0 then [] else '.' :: padded 6 rest
  (if offset < 0 then '-' else '+') :: padded 2 (size / 3600) ++ ':' ::
    padded 2 (size / 60 % 60) ++ seconds ++ fraction

/-- A moment as text, with microseconds if there are any. -/
def print (moment : Moment) : String :=
  let date := padded 4 moment.year ++ '-' :: padded 2 moment.month ++ '-' :: padded 2 moment.day
  let time := padded 2 moment.hour ++ ':' :: padded 2 moment.minute ++ ':' ::
    padded 2 moment.second
  let fraction := if moment.microsecond = 0 then [] else '.' :: padded 6 moment.microsecond
  String.ofList (date ++ ' ' :: time ++ fraction ++ offsetText (moment.offset.getD 0))

def bounded (fault : MomentFault) (first last : Nat) (number : Int) : Except Fault Nat :=
  if first ≤ number ∧ number ≤ last then .ok number.toNat else .error (.noMoment fault)

/-- A part of the time of day, which is zero where it is left out. -/
def timePart (name : String) (last : Nat) (number : Option Int) : Except Fault Nat :=
  bounded (.part name last) 0 last (number.getD 0)

/-- The microseconds of a day. -/
def dayMicroseconds : Nat := 86400000000

/-- A distance from universal time, which is less than a day. -/
def distance (offset : Option Int) : Except Fault (Option Int) :=
  match offset with
  | some given =>
      if given.natAbs < dayMicroseconds then .ok offset else .error (.noMoment (.offset given))
  | none => .ok none

/-- The moment of numbers: year, month and day, and as many parts of the time of day as there
are. -/
def ofNumbers (numbers : List Int) (offset : Option Int) : Except Fault Moment := do
  let offset ← distance offset
  match numbers with
  | year :: month :: day :: time =>
      if time.length > 4 then .error (.noMoment .count)
      else
        let year ← bounded (.year year) 1 9999 year
        let month ← bounded .month 1 12 month
        let day ← bounded .day 1 (daysInMonth year month) day
        let hour ← timePart "hour" 23 time[0]?
        let minute ← timePart "minute" 59 time[1]?
        let second ← timePart "second" 59 time[2]?
        let microsecond ← timePart "microsecond" 999999 time[3]?
        return ⟨year, month, day, hour, minute, second, microsecond, offset⟩
  | _ => .error (.noMoment .count)

end Moment

/-- Writes a moment that is not before 1970. -/
def encodeTimestamp (moment : Moment) : Except Fault String :=
  if moment.nanoseconds < 0 then .error (.beforeEpoch moment.print)
  else .ok (toString moment.nanoseconds)

end Rollout.Wire
