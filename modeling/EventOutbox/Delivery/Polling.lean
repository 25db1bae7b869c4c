import EventOutbox.Delivery.Dispatcher

/-!
# The polling loop

A dispatcher that runs a cycle at each tick of a timer until it is asked to stop.  When the ticks
are due is the timer's business: the loop tells it when it begins, and when it noticed a tick that
was due.
-/

namespace EventOutbox

/-- A timer: the time of a run in nanoseconds, waiting, and ticks. -/
structure Timer (W : Type) where
  /-- The time now. -/
  now : W → Nat
  /-- Wait for a moment, or until the dispatcher is asked to stop. -/
  waitUntil : Nat → Action W Unit
  /-- When the first tick is due, after ticks were asked for at `start`. -/
  firstTick : (start : Nat) → Nat
  /-- When the next tick is due, after one that was due at `due` and noticed at `now`. -/
  nextTick : (period due now : Nat) → Nat

namespace Dispatcher

variable {W κ : Type} [EventCatalog κ]

/-- Stop the polling loop. -/
def stop (d : Dispatcher W κ) : Action W (Option (Except Failure Unit)) := do
  d.setPhase .idle
  pure (some (.ok ()))

/-- Run cycles from the tick due at `due` on, at most `cycles` of them; `none` when the loop has not
ended by then.  A cycle that fails is not reported. -/
def poll (d : Dispatcher W κ) (timer : Timer W) :
    (cycles due : Nat) → Action W (Option (Except Failure Unit))
  | 0, _ => do
    if ← Action.ask d.cancelled then d.stop else pure none
  | cycles + 1, due => do
    if ← Action.ask d.cancelled then d.stop
    else
      timer.waitUntil due
      if ← Action.ask d.cancelled then d.stop
      else
        let now ← Action.ask timer.now
        let _ ← d.dispatchOnce
        d.poll timer cycles (timer.nextTick d.config.pollInterval.toNanos due now)

/-- Run the polling loop, for at most `cycles` cycles.  A refused configuration ends it before the
first. -/
def run (d : Dispatcher W κ) (timer : Timer W) (cycles : Nat) :
    Action W (Option (Except Failure Unit)) := do
  match d.config.problem? with
  | some p => pure (some (.error p.failure))
  | none =>
    let start ← Action.ask timer.now
    d.poll timer cycles (timer.firstTick start)

end Dispatcher

end EventOutbox
