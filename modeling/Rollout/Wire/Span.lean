/-!
# Spans of time

A span in whole days, in what is left of a day in seconds and in what is left of a second in
microseconds. Only the days of a span that goes back are negative.
-/

set_option autoImplicit false

namespace Rollout.Wire

structure Span where
  days : Int
  seconds : Nat
  microseconds : Nat
deriving DecidableEq, Repr

namespace Span

/-- The span of a count of microseconds. -/
def ofMicroseconds (count : Int) : Span :=
  let seconds := count / 1000000
  ⟨seconds / 86400, (seconds % 86400).toNat, (count % 1000000).toNat⟩

def nanoseconds (span : Span) : Int :=
  (span.days * 86400 + span.seconds) * 1000000000 + span.microseconds * 1000

/-- A span as text, without the parts of a day that are zero. -/
def text (span : Span) : String :=
  let seconds := if span.seconds = 0 then "" else s!", seconds={span.seconds}"
  let rest := if span.microseconds = 0 then "" else s!", microseconds={span.microseconds}"
  s!"datetime.timedelta(days={span.days}{seconds}{rest})"

end Span

end Rollout.Wire
