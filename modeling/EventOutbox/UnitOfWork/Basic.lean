import EventOutbox.Actor.Basic
import EventOutbox.Entity
import EventOutbox.UnitOfWork.CommitError

/-!
# Units of work

A unit of work tracks entities as new, modified or unchanged, and commits them in one step: it
stamps their audit fields, gathers the rows of new and modified entities and of all raised events
into one change set, and hands that to a store.  Only when the store accepts it do the entities
take their new versions, lose their events and count as unchanged.
-/

namespace EventOutbox

/-! ## §1 Tracked entities -/

/-- What a commit does with an entity. -/
inductive TrackState where
  | added
  | modified
  | unchanged
deriving DecidableEq, Repr

/-- An entity with what a commit does with it. -/
structure Tracked (κ : Type) [EventCatalog κ] where
  entity : Entity κ
  state : TrackState

/-- The entities of one step, in the order in which they were registered. -/
structure UnitOfWork (κ : Type) [EventCatalog κ] where
  tracked : List (Tracked κ) := []

/-- What a commit learns from outside: who acts, the identifier of the transaction, whether it is
cancelled, and the time. -/
structure Attempt where
  actor : Option Actor
  transactionId : Uuid
  cancelled : Bool
  now : Instant

/-- The account of a successful commit. -/
structure CommitSummary where
  transactionId : Uuid
  entitiesWritten : Nat
  messagesWritten : Nat
deriving DecidableEq

variable {κ : Type} [EventCatalog κ]

/-! ## §2 Single entities -/

namespace Tracked

/-- Stamp the audit fields for a commit. -/
def stamp (now : Instant) (actor : String) (t : Tracked κ) : Tracked κ :=
  let audit := t.entity.audit.map fun a =>
    match t.state with
    | .added => a.stampCreated now actor
    | .modified => a.stampModified now actor
    | .unchanged => a
  { t with entity := { t.entity with audit } }

/-- The change of the entity's row, if it has one. -/
def changeKind? (t : Tracked κ) : Option ChangeKind :=
  match t.state with
  | .added => some .insert
  | .modified => some (.update t.entity.version)
  | .unchanged => none

/-- The changes of the entity's row: one, or none when it is unchanged. -/
def changes (t : Tracked κ) : Except CommitError (List Change) :=
  match t.changeKind? with
  | none => .ok []
  | some kind =>
    match t.entity.state with
    | .ok state => .ok [⟨t.entity.entityType, t.entity.entityId, kind, state⟩]
    | .error e =>
      .error (.serialization s!"{t.entity.entityType} {t.entity.entityId}: {e}")

/-- The outbox row of an event that the entity raised. -/
def message (t : Tracked κ) (a : Attempt) (e : Event κ) : Except CommitError Message :=
  (Message.ofEvent e t.entity.entityType t.entity.entityId a.transactionId a.now).mapError
    fun reason => .serialization s!"{e.eventType} ({e.id}): {reason}"

/-- The entity after a successful commit. -/
def settle (version : Option UInt64) (t : Tracked κ) : Tracked κ :=
  { entity := { t.entity with
      version := version.getD t.entity.version
      buffer := t.entity.buffer.clear }
    state := .unchanged }

end Tracked

/-! ## §3 Commits -/

namespace UnitOfWork

/-- Track an entity. -/
def track (u : UnitOfWork κ) (entity : Entity κ) (state : TrackState) : UnitOfWork κ :=
  ⟨u.tracked ++ [⟨entity, state⟩]⟩

/-- The number of tracked entities. -/
def trackedCount (u : UnitOfWork κ) : Nat :=
  u.tracked.length

/-- The number of events that wait to be stored. -/
def pendingEventCount (u : UnitOfWork κ) : Nat :=
  (u.tracked.flatMap fun t => t.entity.buffer.pending).length

/-- Stamp the audit fields of all entities. -/
def stamp (u : UnitOfWork κ) (a : Attempt) : UnitOfWork κ :=
  ⟨u.tracked.map (Tracked.stamp a.now (Actor.auditName a.actor))⟩

/-- Gather the rows of entities and events; the first that has no stored form is reported. -/
def gather (a : Attempt) : List (Tracked κ) → Except CommitError ChangeSet
  | [] => .ok { transactionId := a.transactionId }
  | t :: ts => do
    let entities ← t.changes
    let messages ← t.entity.buffer.pending.mapM (t.message a)
    let rest ← gather a ts
    .ok { rest with
      entities := entities ++ rest.entities
      messages := messages ++ rest.messages }

/-- The versions that the entities take when the changes are committed, in tracking order.  The
changes are walked in step with the entities: each one that is new or modified takes the next
change, and no version when there is none left. -/
def nextVersions {W : Type} : List (Tracked κ) → List Change → Action W (List (Option UInt64))
  | [], _ => pure []
  | t :: ts, changes =>
    match t.state, changes with
    | .unchanged, changes => do
      let versions ← nextVersions ts changes
      pure (none :: versions)
    | _, [] => do
      let versions ← nextVersions ts []
      pure (none :: versions)
    | _, c :: changes => do
      let version ← c.nextVersion
      let versions ← nextVersions ts changes
      pure (some version :: versions)

/-- The entities after a successful commit. -/
def settle (u : UnitOfWork κ) (versions : List (Option UInt64)) : UnitOfWork κ :=
  ⟨u.tracked.zipWith (fun t v => t.settle v) versions⟩

variable {W : Type}

/-- What lies around the unit of work, as a part of the world that a commit acts on. -/
def worldCell : Cell (UnitOfWork κ × W) W where
  get w := w.2
  set x w := (w.1, x)
  get_set _ _ := rfl
  set_get _ := rfl
  set_set _ _ _ := rfl

/-- Commit the tracked entities.  A cancelled attempt touches nothing.  The store is not asked when
there is nothing to write, and new versions are settled before it is asked. -/
def commit (store : Committer W) (a : Attempt) :
    Action (UnitOfWork κ × W) (Except CommitError CommitSummary) := do
  if a.cancelled then pure (.error .cancelled)
  else
    Action.update fun w => (w.1.stamp a, w.2)
    let u ← Action.ask fun w => w.1
    match gather a u.tracked with
    | .error e => pure (.error e)
    | .ok changes =>
      if changes.isEmpty then pure (.ok ⟨a.transactionId, 0, 0⟩)
      else
        let versions ← nextVersions u.tracked changes.entities
        match ← worldCell.focus (store.commit changes) with
        | .error e => pure (.error (.ofStore e))
        | .ok receipt =>
          Action.update fun w => (w.1.settle versions, w.2)
          pure (.ok ⟨a.transactionId, receipt.entitiesWritten, receipt.messagesWritten⟩)

end UnitOfWork

end EventOutbox
