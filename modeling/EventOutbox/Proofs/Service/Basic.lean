import EventOutbox.Proofs.Delivery.Cycle
import EventOutbox.Store.Memory
import EventOutbox.UnitOfWork.Basic
import Mathlib.Logic.Function.Basic
import Mathlib.Logic.Relation

/-!
# Runs of a service

A service is a store and the log of a bus together with the business objects that raise events, and
with everything else that a program around them has.  It also keeps journals that no part of the
program reads: every event that an object ever raised, every row that was marked with the length of
the log at that time, and the calls of handlers.

A run starts from an empty store.  Objects raise and change, units of work are committed, and
dispatchers go through their cycles, in any order.

## Main definitions

- `Service.Step`: what happens to a service apart from delivery.
- `Service.Run`: the runs, with the rows that each cycle reached.
-/

namespace EventOutbox

/-! ## §1 Services -/

/-- Two states of one business object. -/
structure Entity.SameKey {κ : Type} [EventCatalog κ] (a b : Entity κ) : Prop where
  entityType : b.entityType = a.entityType
  entityId : b.entityId = a.entityId

/-- A business object with all events that it ever raised. -/
structure Aggregate (κ : Type) [EventCatalog κ] where
  entity : Entity κ
  raised : List (Event κ)

/-- The object raises an event. -/
def Aggregate.raise {κ : Type} [EventCatalog κ] (x : Aggregate κ) (e : Event κ) : Aggregate κ :=
  ⟨x.entity.raise e, x.raised ++ [e]⟩

/-- What is noted about the call of a handler. -/
inductive CallNote where
  | invoked
  | succeeded
deriving DecidableEq, Repr

/-- A store, the log of a bus, business objects, journals, and the rest of a program. -/
structure Service (κ ι E : Type) [EventCatalog κ] where
  aggregates : ι → Aggregate κ
  store : Store
  log : List (Event κ)
  /-- The marked rows, each with the length of the log at the time. -/
  marks : List (Uuid × Nat)
  /-- The calls of handlers, each with the place of the handler and the event. -/
  calls : List (CallNote × Nat × Uuid)
  rest : E

namespace Service

variable {κ ι E : Type} [EventCatalog κ]

/-- The store as a part of a service. -/
def storeCell : Cell (Service κ ι E) Store where
  get w := w.store
  set s w := { w with store := s }
  get_set _ _ := rfl
  set_get _ := rfl
  set_set _ _ _ := rfl

/-- The log as a part of a service. -/
def logCell : Cell (Service κ ι E) (List (Event κ)) where
  get w := w.log
  set s w := { w with log := s }
  get_set _ _ := rfl
  set_get _ := rfl
  set_set _ _ _ := rfl

/-- The outbox of the store; marks are noted. -/
def outbox : OutboxAccess (Service κ ι E) where
  fetch := (Store.outboxAccess storeCell).fetch
  markProcessed id at_ := do
    match ← (Store.outboxAccess storeCell).markProcessed id at_ with
    | .error f => pure (.error f)
    | .ok () =>
      Action.update fun w => { w with marks := w.marks ++ [(id, w.log.length)] }
      pure (.ok ())
  recordFailure := (Store.outboxAccess storeCell).recordFailure

/-- The events of an object that are not stored yet. -/
def pending (w : Service κ ι E) (i : ι) : List (Event κ) :=
  (w.aggregates i).entity.buffer.pending

/-! ## §2 Steps -/

section Step

variable [DecidableEq ι]

/-- An object raises an event. -/
def raise (i : ι) (e : Event κ) (w : Service κ ι E) : Service κ ι E :=
  { w with aggregates := Function.update w.aggregates i ((w.aggregates i).raise e) }

/-- An object changes. -/
def edit (i : ι) (entity : Entity κ) (w : Service κ ι E) : Service κ ι E :=
  { w with aggregates := Function.update w.aggregates i ⟨entity, (w.aggregates i).raised⟩ }

/-- The unit of work that tracks the given objects. -/
def unitOfWork (track : List (ι × TrackState)) (w : Service κ ι E) : UnitOfWork κ :=
  ⟨track.map fun t => ⟨(w.aggregates t.1).entity, t.2⟩⟩

/-- The service with the objects as a unit of work leaves them. -/
def putBack (track : List (ι × TrackState)) (u : UnitOfWork κ) (w : Service κ ι E) :
    Service κ ι E :=
  { w with aggregates := fun i =>
      match ((track.map Prod.fst).zip u.tracked).lookup i with
      | some t => ⟨t.entity, (w.aggregates i).raised⟩
      | none => w.aggregates i }

/-- The commit of a unit of work that tracks the given objects; whatever it answers, and also when
the run ends early, the objects are as it leaves them. -/
def commit (track : List (ι × TrackState)) (a : Attempt) (w : Service κ ι E) : Service κ ι E :=
  let after := ((UnitOfWork.commit (Store.committer storeCell) a).run (w.unitOfWork track, w)).2
  after.2.putBack track after.1

/-- What happens to a service apart from delivery. -/
inductive Step : Service κ ι E → Service κ ι E → Prop where
  /-- An object raises an event with a new identifier. -/
  | raise {w} (i : ι) (e : Event κ) (new : ∀ j, ∀ e' ∈ (w.aggregates j).raised, e'.id ≠ e.id) :
      Step w (w.raise i e)
  /-- An object changes, but for its key and the events that wait to be stored. -/
  | edit {w} (i : ι) (entity : Entity κ)
      (sameKey : (w.aggregates i).entity.SameKey entity)
      (sameBuffer : entity.buffer = (w.aggregates i).entity.buffer) :
      Step w (w.edit i entity)
  /-- A unit of work that tracks no object twice is committed. -/
  | commit {w} (track : List (ι × TrackState)) (a : Attempt)
      (distinct : (track.map Prod.fst).Nodup) :
      Step w (w.commit track a)
  /-- Something happens that is not about objects and outbox rows. -/
  | elsewhere {w w'} (sameObjects : w'.aggregates = w.aggregates)
      (sameRows : w'.store.outbox = w.store.outbox)
      (sameNumber : w'.store.nextSeq = w.store.nextSeq) : Step w w'

/-- Any number of steps. -/
def Moves : Service κ ι E → Service κ ι E → Prop :=
  Relation.ReflTransGen Step

end Step

/-! ## §3 Runs -/

/-- A service whose store is empty and whose objects have not raised anything. -/
structure Fresh (w : Service κ ι E) : Prop where
  store : w.store = {}
  log : w.log = []
  marks : w.marks = []
  calls : w.calls = []
  raised : ∀ i, (w.aggregates i).raised = []
  pending : ∀ i, w.pending i = []

/-- The dispatcher delivers the rows of the service. -/
structure Serves (d : Dispatcher (Service κ ι E) κ) : Prop where
  outbox : d.outbox = Service.outbox
  setPhase : ∀ p, ∃ display : E → E,
    d.setPhase p = Action.update fun w => { w with rest := display w.rest }

/-- The runs of a service, with the identifiers of the rows that each cycle reached.  Between cycles
the service changes by moves, and each cycle is one of an allowed dispatcher. -/
inductive Run (moves : Service κ ι E → Service κ ι E → Prop)
    (allowed : Dispatcher (Service κ ι E) κ → Prop) : List (List Uuid) → Service κ ι E → Prop where
  | start {w} (fresh : w.Fresh) : Run moves allowed [] w
  | move {h v w} (run : Run moves allowed h v) (move : moves v w) : Run moves allowed h w
  | cycle {h v} (run : Run moves allowed h v) (d : Dispatcher (Service κ ι E) κ) (serves : Serves d)
      (allow : allowed d) :
      Run moves allowed (h ++ [(d.reached v).map Message.id]) (d.dispatchOnce.run v).2

end Service

end EventOutbox
