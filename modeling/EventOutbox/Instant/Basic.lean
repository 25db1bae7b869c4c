import EventOutbox.Instant.Date

/-!
# Instants

A moment of universal time: a day, a time of day in whole seconds, and a fraction that may run past
the end of its second by up to another second.  Past the last second of a minute this is a leap
second, but the fraction may run past any second.  Instants are ordered field by field, which puts a
leap second after the second before it and before the minute that follows.
-/

namespace EventOutbox

/-! ## §1 The type and its order -/

/-- A moment of universal time.  A leap second is second 59 with a fraction of one second or
more. -/
structure Instant where
  date : Date
  hour : Fin 24
  minute : Fin 60
  second : Fin 60
  nano : Fin 2000000000
deriving DecidableEq

namespace Instant

/-- The instant with the given fields, each of which is taken modulo its range. -/
def ofFields (date : Date) (hour minute second nano : Nat) : Instant :=
  { date
    hour := Fin.ofNat 24 hour
    minute := Fin.ofNat 60 minute
    second := Fin.ofNat 60 second
    nano := Fin.ofNat 2000000000 nano }

/-- A number that grows with the instant: its fields as digits of mixed radix. -/
def rank (t : Instant) : Int :=
  ((((((t.date.year * 13 + t.date.month) * 32 + t.date.day) * 24 + t.hour.val) * 60 +
    t.minute.val) * 60 + t.second.val) * 2000000000) + t.nano.val

instance : LE Instant := ⟨fun a b => a.rank ≤ b.rank⟩

instance : LT Instant := ⟨fun a b => a.rank < b.rank⟩

instance (a b : Instant) : Decidable (a ≤ b) := inferInstanceAs (Decidable (a.rank ≤ b.rank))

instance (a b : Instant) : Decidable (a < b) := inferInstanceAs (Decidable (a.rank < b.rank))

/-- Compare two instants. -/
def compare (a b : Instant) : Ordering :=
  Ord.compare a.rank b.rank

/-! ## §2 Fractions that run past their second -/

/-- The number of nanoseconds in a second. -/
def nanosPerSecond : Nat := 1000000000

/-- Whether the fraction runs past the end of its second. -/
def overruns (t : Instant) : Bool :=
  nanosPerSecond ≤ t.nano.val

/-! ## §3 Adding a span -/

/-- The nanoseconds since midnight.  The part of the fraction that runs past its second is counted
or left out. -/
def nanoOfDay (t : Instant) (counted : Bool) : Int :=
  let second := t.hour.val * 3600 + t.minute.val * 60 + t.second.val
  second * nanosPerSecond + (if counted then t.nano.val else t.nano.val % nanosPerSecond)

/-- The instant with the given day and the given nanoseconds since midnight, with a fraction of less
than a second. -/
def ofNanoOfDay (date : Date) (nanos : Int) : Instant :=
  let second := nanos / nanosPerSecond
  ofFields date (second / 3600).toNat (second / 60 % 60).toNat (second % 60).toNat
    (nanos % nanosPerSecond).toNat

/-- The instant a number of milliseconds later, unless the calendar ends before.  A step of less
than a second may stay in a fraction that runs past its second or shorten it; any other step forward
forgets the second that was run past, and a step back by a second or more counts it. -/
def plusMillis? (t : Instant) (millis : Int) : Option Instant :=
  let seconds := millis.tdiv 1000
  let fraction := millis.tmod 1000 * 1000000
  if t.overruns ∧ seconds = 0 ∧ t.nano.val + fraction < 2 * nanosPerSecond then
    some { t with nano := Fin.ofNat 2000000000 (t.nano.val + fraction).toNat }
  else
    let total := t.nanoOfDay (seconds < 0) + seconds * nanosPerSecond + fraction
    let perDay := 86400 * nanosPerSecond
    (t.date.addDays? (total / perDay)).map (ofNanoOfDay · (total % perDay))

end Instant

end EventOutbox
