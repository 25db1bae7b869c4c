import EventOutbox.Delivery.Bus
import EventOutbox.Delivery.Polling
import EventOutbox.Store.Memory

/-!
# A world to run in

Everything that a run of the library can change, held in memory: a store, the log of the bus, a
clock, virtual time, a stop signal, handlers that follow scripts, and faults that the next call of
an operation reports once.  Calls of the store, of the ledger and of handlers are kept in a trace,
together with what the dispatcher was doing.
-/

namespace EventOutbox.Simulation

/-! ## §1 Scripts and traces -/

/-- What a scripted handler does, and how often it was called. -/
structure Script where
  /-- The milliseconds that a call takes, up to the longest wait. -/
  delay : Nat := 0
  /-- Events whose handling asks the dispatcher to stop. -/
  cancelIds : List String := []
  /-- Events that another delivery records in the ledger meanwhile. -/
  raceIds : List String := []
  /-- Events whose handling fails. -/
  failIds : List String := []
  /-- The number of first calls that fail. -/
  failFirst : Nat := 0
  /-- The failure that is reported. -/
  error : Failure := .plain .internalError "boom"
  calls : Nat := 0

/-- A traced call. -/
inductive Call where
  | fetch (limit : UInt32) (maxAttempts : Option UInt32)
  | mark (id : Uuid)
  | fail (id : Uuid) (text : String)
  | contains (id : Uuid) (consumer : String) (answer : Bool)
  | record (id : Uuid) (consumer : String) (answer : LedgerAnswer)
  | handle (handler : String) (id : Uuid) (eventType : String) (count : Nat)
deriving DecidableEq

/-! ## §2 The world -/

/-- Everything that a run can change. -/
structure World (κ : Type) [EventCatalog κ] where
  clock : Instant
  store : Store := {}
  published : List (Event κ) := []
  /-- The traced calls, the last one first. -/
  trace : List (Call × Option Phase) := []
  phase : Option Phase := none
  /-- Virtual time in nanoseconds. -/
  time : Nat := 0
  cancelled : Bool := false
  /-- The scripts of the handlers under their keys. -/
  scripts : List (String × Script) := []
  recordFault : Option Failure := none
  containsFault : Option Failure := none
  ledgerFault : Option Failure := none
  fetches : Nat := 0
  /-- The fetch that asks the dispatcher to stop. -/
  stopAtFetch : Option Nat := none

namespace World

variable {κ : Type} [EventCatalog κ]

/-- The store as a part of the world. -/
def storeCell : Cell (World κ) Store where
  get w := w.store
  set s w := { w with store := s }
  get_set _ _ := rfl
  set_get _ := rfl
  set_set _ _ _ := rfl

/-- The log of the bus as a part of the world. -/
def publishedCell : Cell (World κ) (List (Event κ)) where
  get w := w.published
  set s w := { w with published := s }
  get_set _ _ := rfl
  set_get _ := rfl
  set_set _ _ _ := rfl

/-- Trace a call. -/
def note (c : Call) : Action (World κ) Unit :=
  .update fun w => { w with trace := (c, w.phase) :: w.trace }

/-! ## §3 Access to the world -/

/-- The outbox of the store, without trace and further faults. -/
def storeOutbox : OutboxAccess (World κ) := Store.outboxAccess storeCell

/-- The ledger of the store, without trace and faults. -/
def storeLedger : LedgerAccess (World κ) := Store.ledgerAccess storeCell (·.clock)

/-- Count a fetch, which may ask the dispatcher to stop. -/
def countFetch : Action (World κ) Unit :=
  .update fun w =>
    let n := w.fetches + 1
    { w with fetches := n, cancelled := w.cancelled || w.stopAtFetch = some n }

/-- The traced outbox. -/
def outbox : OutboxAccess (World κ) where
  fetch limit maxAttempts := do
    note (.fetch limit maxAttempts)
    let answer ← storeOutbox.fetch limit maxAttempts
    countFetch
    pure answer
  markProcessed id at_ := do
    note (.mark id)
    storeOutbox.markProcessed id at_
  recordFailure id text := do
    note (.fail id text)
    match ← Action.ask (·.recordFault) with
    | some f =>
      .update fun w => { w with recordFault := none }
      pure (.error f)
    | none => storeOutbox.recordFailure id text

/-- The traced ledger; a call that a fault answers is not traced. -/
def ledger : LedgerAccess (World κ) where
  contains id consumer := do
    match ← Action.ask (·.containsFault) with
    | some f =>
      .update fun w => { w with containsFault := none }
      pure (.error f)
    | none =>
      match ← storeLedger.contains id consumer with
      | .error f => pure (.error f)
      | .ok answer =>
        note (.contains id consumer answer)
        pure (.ok answer)
  record id consumer := do
    match ← Action.ask (·.ledgerFault) with
    | some f =>
      .update fun w => { w with ledgerFault := none }
      pure (.error f)
    | none =>
      match ← storeLedger.record id consumer with
      | .error f => pure (.error f)
      | .ok answer =>
        note (.record id consumer answer)
        pure (.ok answer)

/-! ## §4 Time -/

/-- The nanoseconds in a millisecond, which is the resolution of the timer. -/
def millisecond : Nat := 1000000

/-- The nanoseconds that a tick may be late without moving the ticks after it. -/
def tickTolerance : Nat := 5 * millisecond

/-- The longest wait in nanoseconds: thirty years of 365 days. -/
def longestWait : Nat := 946080000000 * millisecond

/-- Waiting is moving virtual time, in whole milliseconds.  The first tick is due at once.  A tick
that is noticed more than five milliseconds late moves the ticks after it by the delay; otherwise
ticks keep their distance. -/
def timer : Timer (World κ) where
  now w := w.time
  waitUntil t := .update fun w => { w with time := max w.time (nextBeat millisecond t) }
  firstTick start := start
  nextTick period due now :=
    min ((if due + tickTolerance < now then now else due) + period) (now + longestWait)

/-! ## §5 Handlers and dispatchers -/

/-- The script under a key. -/
def script (w : World κ) (key : String) : Script :=
  (w.scripts.lookup key).getD {}

/-- Put a script under a key. -/
def setScript (w : World κ) (key : String) (s : Script) : World κ :=
  { w with scripts := (key, s) :: w.scripts.filter fun e => e.1 != key }

/-- The handler that follows the script under a key. -/
def scripted (key name : String) (kind : κ) : Handler (World κ) kind where
  name := name
  handle body := do
    let id := (EventCatalog.schema kind).id body
    let s ← Action.ask fun w => w.script key
    let count := s.calls + 1
    Action.update fun w => w.setScript key { s with calls := count }
    note (.handle name id (EventCatalog.schema kind).discriminator count)
    Action.update fun w => { w with
      time := w.time + min (millisecond * s.delay) longestWait
      cancelled := w.cancelled || s.cancelIds.contains id.text }
    if s.raceIds.contains id.text then
      let _ ← storeLedger.record id name
    if s.failIds.contains id.text || count ≤ s.failFirst then pure (.error s.error)
    else pure (.ok ())

/-- The dispatcher that works on the world. -/
def dispatcher [DecidableEq κ] (bus : Bus (World κ) κ) (registry : Registry κ)
    (config : DispatcherConfig) : Dispatcher (World κ) κ where
  outbox := outbox
  registry := registry
  publish := bus.publish publishedCell
  config := config
  setPhase p := .update fun w => { w with phase := some p }
  cancelled w := w.cancelled
  clock w := w.clock

/-- The world at the start of a cycle or a polling loop. -/
def start (cancelled : Bool) (stopAtFetch : Option Nat) (w : World κ) : World κ :=
  { w with cancelled, stopAtFetch, fetches := 0, phase := some (w.phase.getD .idle) }

end World

end EventOutbox.Simulation
