import EventOutbox.Action
import EventOutbox.Outbox.Message

/-!
# Changes of entities

What a unit of work asks a store to write in one step: changes of entity rows, each with the version
it expects to find, and outbox rows.
-/

namespace EventOutbox

/-! ## §1 Changes -/

/-- What happens to an entity row. -/
inductive ChangeKind where
  /-- The row is new. -/
  | insert
  /-- The row replaces the one of the expected version. -/
  | update (expected : UInt64)
deriving DecidableEq, Repr

/-- The change of one entity row. -/
structure Change where
  entityType : String
  entityId : String
  kind : ChangeKind
  state : Json
deriving DecidableEq

/-- The version of a row after a change; `none` when versions are used up. -/
def ChangeKind.nextVersion? : ChangeKind → Option UInt64
  | .insert => some 1
  | .update expected => if expected.toNat + 1 < UInt64.size then some (expected + 1) else none

/-- The version of the row after the change, or the end of the run when versions are used up. -/
def Change.nextVersion {W : Type} (c : Change) : Action W UInt64 :=
  match c.kind.nextVersion? with
  | some v => pure v
  | none => .abort .versionFull

/-- What is written in one step. -/
structure ChangeSet where
  transactionId : Uuid
  entities : List Change := []
  messages : List Message := []
deriving DecidableEq

/-- Whether nothing is to be written. -/
def ChangeSet.isEmpty (cs : ChangeSet) : Bool :=
  cs.entities.isEmpty && cs.messages.isEmpty

/-! ## §2 Answers -/

/-- What was written. -/
structure Receipt where
  entitiesWritten : Nat := 0
  messagesWritten : Nat := 0
deriving DecidableEq, Repr

/-- Why a store refuses a change set. -/
inductive StoreError where
  | concurrency (entityType entityId reason : String)
  | database (message : String)
  | storage (message : String)
deriving DecidableEq, Repr

/-- The wording of a refusal. -/
def StoreError.message : StoreError → String
  | .concurrency entityType entityId reason =>
    s!"Concurrency conflict on {entityType} {entityId}: {reason}"
  | .database message => s!"Database error: {message}"
  | .storage message => s!"Storage error: {message}"

/-- Access to a store that writes change sets, each wholly or not at all. -/
structure Committer (W : Type) where
  commit : ChangeSet → Action W (Except StoreError Receipt)

end EventOutbox
