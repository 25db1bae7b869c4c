import EventOutbox.Proofs.Delivery.Polling
import EventOutbox.Proofs.Delivery.Publishing
import EventOutbox.Proofs.Store.Delivery
import EventOutbox.Simulation.World

/-!
# Polling in the world to run in

In the world to run in, waiting is moving virtual time and phases are shown in the world, so that
the polling loop has all that it asks for, and its timer keeps its ticks.  The store is the one in
memory, whose rows are left alone by everything but calls about them, and handlers that follow
scripts leave them alone, too.

## Main statements

- `World.polls`, `World.ticks`: the surroundings of a polling loop.
- `World.frames`: stored rows are left alone.
-/

namespace EventOutbox.Simulation.World

open EventOutbox.Action

variable {κ : Type} [EventCatalog κ]

/-! ## §1 The surroundings of the loop -/

/-- What the dispatcher is doing. -/
def shown (w : World κ) : Phase :=
  w.phase.getD .idle

/-- A loop in the simulated world has what it asks for, unless one of its cycles ends early. -/
theorem polls [DecidableEq κ] {bus : Bus (World κ) κ} {registry : Registry κ}
    {config : DispatcherConfig} {w : World κ}
    (answers : ∀ n, (∀ j ≤ n, (dispatcher bus registry config).Taken timer
        ((dispatcher bus registry config).lap timer w j)) →
      ∃ answer, ((dispatcher bus registry config).dispatchOnce.run
        (((dispatcher bus registry config).lap timer w n).ticked timer)).1 = .ok answer) :
    (dispatcher bus registry config).Polls timer shown w where
  waits := fun _ _ => rfl
  shows := fun _ _ => ⟨rfl, rfl⟩
  stays := fun _ _ => id
  answers := answers

/-- The next beat is less than one distance away. -/
theorem nextBeat_lt {grain : Nat} (hgrain : 0 < grain) (moment : Nat) :
    nextBeat grain moment < moment + grain := by
  have hle := Nat.div_mul_le_self (moment + (grain - 1)) grain
  rw [nextBeat]
  omega

/-- The timer of the simulated world, with its tolerance and the longest wait that it knows. -/
theorem nextTick_timer (period due now : Nat) :
    (timer : Timer (World κ)).nextTick period due now =
      min ((if due + tickTolerance < now then now else due) + period) (now + longestWait) :=
  rfl

/-- A tick that is noticed within the tolerance keeps the distance to the next one. -/
theorem min_tick_of_le {tolerance longest period due now : Nat} (hshort : period ≤ longest)
    (hpast : due ≤ now) (hintime : now ≤ due + tolerance) :
    min ((if due + tolerance < now then now else due) + period) (now + longest) = due + period := by
  rw [if_neg (by omega)]
  omega

/-- Otherwise the next tick is moved by the delay. -/
theorem min_tick_or {tolerance longest period due now : Nat} (hshort : period ≤ longest)
    (hpast : due ≤ now) :
    min ((if due + tolerance < now then now else due) + period) (now + longest) = due + period ∨
      min ((if due + tolerance < now then now else due) + period) (now + longest) =
        now + period := by
  split <;> omega

/-- The timer has a beat each millisecond, and keeps the ticks of every period that it can wait
for. -/
theorem ticks {d : Dispatcher (World κ) κ} (hshort : d.period ≤ longestWait) :
    d.Ticks timer millisecond := by
  have hgrain : 0 < millisecond := by decide
  have htolerance : millisecond ≤ tickTolerance := by decide
  constructor
  case positive => exact hgrain
  case first => exact fun _ => rfl
  case waits =>
    intro l _
    show max l.world.time _ = max l.world.time _
    rfl
  case keeps =>
    intro due
    -- the beat of a tick is less than a millisecond late, which is tolerated
    have hintime : nextBeat millisecond due ≤ due + tickTolerance :=
      Nat.le_trans (Nat.le_of_lt (nextBeat_lt hgrain due)) (Nat.add_le_add_left htolerance due)
    rw [nextTick_timer]
    exact min_tick_of_le hshort (Dispatcher.le_nextBeat hgrain due) hintime
  case delays => exact fun due now hpast => min_tick_or hshort hpast

/-! ## §2 Rows in the store -/

/-- The row is stored as it is. -/
def Holds (m : Message) (w : World κ) : Prop :=
  w.store.Stored m

section Frames

variable {m : Message}

/-- What changes neither outbox rows nor the next number keeps the rows. -/
theorem within_of_same_rows {α : Type} {a : Action (World κ) α}
    (same : ∀ w, (a.run w).2.store.outbox = w.store.outbox ∧
      (a.run w).2.store.nextSeq = w.store.nextSeq) : a.Within (Dispatcher.Keeps Holds m) :=
  fun w hm => hm.congr (same w).1 (same w).2

/-- Noting a call leaves the rows as they are. -/
theorem note_within (c : Call) :
    (note c : Action (World κ) Unit).Within (Dispatcher.Keeps Holds m) :=
  within_of_same_rows fun _ => ⟨rfl, rfl⟩

theorem outbox_fetch_within (limit : UInt32) (maxAttempts : Option UInt32) :
    ((outbox : OutboxAccess (World κ)).fetch limit maxAttempts).Within
      (Dispatcher.Keeps Holds m) := by
  refine Within.bind (Dispatcher.Keeps.trans Holds m) (note_within _) fun _ => ?_
  refine Within.bind (Dispatcher.Keeps.trans Holds m)
    (fun _ hm => hm.fetch limit maxAttempts) fun answer => ?_
  exact within_of_same_rows fun _ => ⟨rfl, rfl⟩

/-- The mark of another row leaves a row as it is. -/
theorem outbox_markProcessed_within {id : Uuid} (hother : m.id ≠ id) (at_ : Instant) :
    ((outbox : OutboxAccess (World κ)).markProcessed id at_).Within
      (Dispatcher.Keeps Holds m) :=
  Within.bind (Dispatcher.Keeps.trans Holds m) (note_within _) fun _ _ hm =>
    hm.markProcessed hother at_

/-- The failure of another row leaves a row as it is. -/
theorem outbox_recordFailure_within {id : Uuid} (hother : m.id ≠ id) (error : String) :
    ((outbox : OutboxAccess (World κ)).recordFailure id error).Within
      (Dispatcher.Keeps Holds m) := by
  refine Within.bind (Dispatcher.Keeps.trans Holds m) (note_within _) fun _ => ?_
  refine Within.bind (Dispatcher.Keeps.trans Holds m)
    (within_ask (Dispatcher.Keeps.refl Holds m) _) fun fault => ?_
  cases fault with
  | some f => exact within_of_same_rows fun _ => ⟨rfl, rfl⟩
  | none => exact fun _ hm => hm.recordFailure hother error

/-- A row of the ledger is no outbox row. -/
theorem storeLedger_record_within (id : Uuid) (consumer : String) :
    ((storeLedger : LedgerAccess (World κ)).record id consumer).Within
      (Dispatcher.Keeps Holds m) := by
  refine within_of_same_rows fun w => ?_
  show (((Store.recordConsumer id consumer w.clock).run w.store).2.outbox = w.store.outbox ∧
    ((Store.recordConsumer id consumer w.clock).run w.store).2.nextSeq = w.store.nextSeq)
  rw [Store.recordConsumer, run_step]
  split <;> exact ⟨rfl, rfl⟩

/-- A handler that follows a script adds at most a ledger row. -/
theorem scripted_within (key name : String) (kind : κ) (body : EventBody kind) :
    ((scripted key name kind).handle body).Within (Dispatcher.Keeps Holds m) := by
  have refl := Dispatcher.Keeps.refl (W := World κ) Holds m
  have trans := Dispatcher.Keeps.trans (W := World κ) Holds m
  refine Within.bind trans (within_ask refl _) fun s => ?_
  refine Within.bind trans (within_of_same_rows fun _ => ⟨rfl, rfl⟩) fun _ => ?_
  refine Within.bind trans (note_within _) fun _ => ?_
  refine Within.bind trans (within_of_same_rows fun _ => ⟨rfl, rfl⟩) fun _ => ?_
  -- whatever it answers, another delivery may have recorded the event meanwhile
  split <;> dsimp only <;> split
  · exact Within.bind trans (storeLedger_record_within _ _) fun _ => within_pure refl _
  · exact within_pure refl _
  · exact Within.bind trans (storeLedger_record_within _ _) fun _ => within_pure refl _
  · exact within_pure refl _

/-- Stored rows are left alone when handlers leave them alone. -/
theorem frames [DecidableEq κ] {bus : Bus (World κ) κ} (registry : Registry κ)
    (config : DispatcherConfig)
    (handlers : ∀ s ∈ bus.subscriptions, ∀ body m,
      (s.handler.handle body).Within (Dispatcher.Keeps Holds m)) :
    (dispatcher bus registry config).Frames Holds where
  fetch := fun limit maxAttempts _ => outbox_fetch_within limit maxAttempts
  markProcessed := fun _ at_ _ hother => outbox_markProcessed_within hother at_
  recordFailure := fun _ error _ hother => outbox_recordFailure_within hother error
  publish := fun _ m => Bus.publish_within (Dispatcher.Keeps.refl Holds m)
    (Dispatcher.Keeps.trans Holds m) (within_of_same_rows fun _ => ⟨rfl, rfl⟩)
    fun s hs body => handlers s hs body m
  setPhase := fun _ _ _ => id

end Frames

end EventOutbox.Simulation.World
