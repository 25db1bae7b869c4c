/-!
# Spans of time

A span is a number of seconds and a fraction in nanoseconds.  Timers count nanoseconds, and a timer
that cannot tell moments apart that lie close together notices them at its next beat.
-/

namespace EventOutbox

/-- A span of time. -/
structure Span where
  seconds : UInt64
  nanos : Fin 1000000000
deriving DecidableEq, Repr

namespace Span

/-- The span of a number of milliseconds. -/
def ofMillis (millis : UInt64) : Span :=
  { seconds := millis / 1000
    nanos := Fin.ofNat 1000000000 (millis.toNat % 1000 * 1000000) }

/-- Whether a span is no time at all. -/
def isZero (s : Span) : Bool :=
  s.seconds = 0 && s.nanos.val = 0

/-- The nanoseconds of a span. -/
def toNanos (s : Span) : Nat :=
  s.seconds.toNat * 1000000000 + s.nanos.val

/-- The whole milliseconds of a span. -/
def toMillis (s : Span) : Nat :=
  s.toNanos / 1000000

end Span

/-- The first beat of a timer at a moment or after it, when beats are `grain` nanoseconds apart. -/
def nextBeat (grain moment : Nat) : Nat :=
  (moment + (grain - 1)) / grain * grain

end EventOutbox
