import EventOutbox.Outbox.Access
import EventOutbox.Store.Change
import EventOutbox.Store.Table

/-!
# The store

The state of a store: entity rows, outbox rows with their sequence numbers, the ledger, and faults
that the next call of an operation reports once.  A change set is checked against the entity rows as
they are, and only then applied.
-/

namespace EventOutbox

/-! ## §1 The state -/

/-- The type and the identifier of an entity. -/
abbrev EntityKey : Type := String × String

/-- A stored entity. -/
structure EntityRow where
  entityType : String
  entityId : String
  version : UInt64
  state : Json
deriving DecidableEq

/-- The key under which a row is filed. -/
def EntityRow.key (r : EntityRow) : EntityKey :=
  (r.entityType, r.entityId)

/-- The key of the row that a change is about. -/
def Change.key (c : Change) : EntityKey :=
  (c.entityType, c.entityId)

/-- Faults that the next call of an operation reports. -/
structure Faults where
  commit : Option StoreError := none
  fetch : Option Failure := none
  markProcessed : Option Failure := none

/-- The state of a store. -/
structure Store where
  entities : Table EntityKey EntityRow := {}
  /-- Outbox rows with their sequence numbers, in the order of their insertion. -/
  outbox : List (Nat × Message) := []
  nextSeq : Nat := 0
  ledger : Table LedgerKey LedgerRow := {}
  faults : Faults := {}

namespace Store

/-- Let the next commit fail. -/
def failNextCommit (e : StoreError) (s : Store) : Store :=
  { s with faults := { s.faults with commit := some e } }

/-- Let the next fetch fail. -/
def failNextFetch (f : Failure) (s : Store) : Store :=
  { s with faults := { s.faults with fetch := some f } }

/-- Let the next mark fail. -/
def failNextMark (f : Failure) (s : Store) : Store :=
  { s with faults := { s.faults with markProcessed := some f } }

/-- The stored entity with a type and an identifier. -/
def entity? (s : Store) (entityType entityId : String) : Option EntityRow :=
  s.entities.find? (entityType, entityId)

/-- All outbox rows, in the order of their insertion. -/
def messages (s : Store) : List Message :=
  s.outbox.map Prod.snd

/-! ## §2 Committing -/

/-- Why a change is refused by the entity rows, if it is. -/
def refusal? (entities : Table EntityKey EntityRow) (c : Change) : Option StoreError :=
  match c.kind, entities.find? c.key with
  | .insert, some _ => some (.database s!"duplicate key for {c.entityType} {c.entityId}")
  | .insert, none => none
  | .update _, none => some (.concurrency c.entityType c.entityId "row no longer exists")
  | .update expected, some row =>
    if row.version = expected then none
    else
      let reason := s!"expected version {expected}, found {row.version}"
      some (.concurrency c.entityType c.entityId reason)

/-- The row that a change leaves. -/
def rowOf (c : Change) (version : UInt64) : EntityRow :=
  ⟨c.entityType, c.entityId, version, c.state⟩

/-- Write one change. -/
def applyChange (c : Change) : Action Store Unit := do
  let version ← c.nextVersion
  .update fun s => { s with entities := s.entities.put c.key (rowOf c version) }

/-- Write changes one after the other. -/
def applyChanges : List Change → Action Store Unit
  | [] => pure ()
  | c :: cs => do
    applyChange c
    applyChanges cs

/-- Whether a message is stored. -/
def hasMessage (s : Store) (id : Uuid) : Bool :=
  s.outbox.any fun r => r.2.id = id

/-- Add an outbox row unless its identifier is taken; says how many rows were added. -/
def insertMessage (s : Store) (m : Message) : Nat × Store :=
  if s.hasMessage m.id then (0, s)
  else (1, { s with outbox := s.outbox ++ [(s.nextSeq, m)], nextSeq := s.nextSeq + 1 })

/-- Add outbox rows one after the other; says how many rows were added. -/
def insertMessages (s : Store) : List Message → Nat × Store
  | [] => (0, s)
  | m :: ms =>
    let (n, s') := s.insertMessage m
    let (k, s'') := s'.insertMessages ms
    (n + k, s'')

/-- Write a change set.  All changes are checked against the entity rows as they were before. -/
def commit (cs : ChangeSet) : Action Store (Except StoreError Receipt) := do
  let s ← Action.ask fun s => s
  match s.faults.commit with
  | some e =>
    .update fun s => { s with faults := { s.faults with commit := none } }
    pure (.error e)
  | none =>
    match cs.entities.findSome? (refusal? s.entities) with
    | some e => pure (.error e)
    | none =>
      applyChanges cs.entities
      let written ← .step fun s => s.insertMessages cs.messages
      pure (.ok ⟨cs.entities.length, written⟩)

/-! ## §3 The outbox -/

/-- Why an operation on an unknown message fails. -/
def notFound (id : Uuid) : Failure :=
  .plain .messageNotFound s!"Outbox message {id} not found"

/-- Whether a row with its sequence number is fetched before another one. -/
def fetchedBefore (a b : Nat × Message) : Bool :=
  a.2.createdAt < b.2.createdAt || (a.2.createdAt ≤ b.2.createdAt && a.1 ≤ b.1)

/-- The pending rows that have attempts left, the oldest first. -/
def eligible (s : Store) (maxAttempts : Option UInt32) : List Message :=
  ((s.outbox.filter fun r => r.2.isPending && !r.2.attemptsExhausted maxAttempts).mergeSort
    fetchedBefore).map Prod.snd

/-- The oldest eligible rows. -/
def fetch (limit : UInt32) (maxAttempts : Option UInt32) :
    Action Store (Except Failure (List Message)) := do
  let s ← Action.ask fun s => s
  match s.faults.fetch with
  | some f =>
    .update fun s => { s with faults := { s.faults with fetch := none } }
    pure (.error f)
  | none => pure (.ok ((s.eligible maxAttempts).take limit.toNat))

/-- The stored message with an identifier. -/
def find? (s : Store) (id : Uuid) : Option Message :=
  (s.outbox.find? fun r => r.2.id = id).map Prod.snd

/-- Outbox rows with the row of an identifier changed. -/
def changeMessage (id : Uuid) (f : Message → Message) : List (Nat × Message) → List (Nat × Message)
  | [] => []
  | (n, m) :: rest => if m.id = id then (n, f m) :: rest else (n, m) :: changeMessage id f rest

/-- Mark a row processed, unless it is already. -/
def markProcessed (id : Uuid) (at_ : Instant) : Action Store (Except Failure Unit) := do
  let s ← Action.ask fun s => s
  match s.faults.markProcessed with
  | some f =>
    .update fun s => { s with faults := { s.faults with markProcessed := none } }
    pure (.error f)
  | none =>
    match s.find? id with
    | none => pure (.error (notFound id))
    | some _ =>
      let mark (m : Message) := if m.isPending then m.markProcessed at_ else m
      .update fun s => { s with outbox := changeMessage id mark s.outbox }
      pure (.ok ())

/-- Count a failed attempt of a row. -/
def recordFailure (id : Uuid) (error : String) : Action Store (Except Failure Unit) := do
  let s ← Action.ask fun s => s
  match s.find? id with
  | none => pure (.error (notFound id))
  | some m =>
    match m.recordFailure? error with
    | none => .abort .retriesFull
    | some m' =>
      .update fun s => { s with outbox := changeMessage id (fun _ => m') s.outbox }
      pure (.ok ())

/-- The number of pending rows. -/
def pendingCount (s : Store) : Nat :=
  s.outbox.countP fun r => r.2.isPending

/-! ## §4 The ledger -/

/-- Whether a consumer has handled a message. -/
def hasConsumer (s : Store) (id : Uuid) (consumer : String) : Bool :=
  s.ledger.contains (id, consumer)

/-- Record that a consumer has handled a message; a row that exists stays as it is. -/
def recordConsumer (id : Uuid) (consumer : String) (now : Instant) : Action Store LedgerAnswer :=
  .step fun s =>
    if s.hasConsumer id consumer then (.alreadyRecorded, s)
    else
      (.inserted, { s with ledger := s.ledger.put (id, consumer) ⟨id, consumer, now⟩ })

/-! ## §5 The store as a part of a world -/

variable {W : Type}

/-- Change sets go into a store. -/
def committer (cell : Cell W Store) : Committer W where
  commit cs := cell.focus (commit cs)

/-- Delivery works on a store. -/
def outboxAccess (cell : Cell W Store) : OutboxAccess W where
  fetch limit maxAttempts := cell.focus (fetch limit maxAttempts)
  markProcessed id at_ := cell.focus (markProcessed id at_)
  recordFailure id error := cell.focus (recordFailure id error)

/-- The ledger of a store, whose rows carry the time that a clock shows. -/
def ledgerAccess (cell : Cell W Store) (clock : W → Instant) : LedgerAccess W where
  contains id consumer := .ask fun w => .ok ((cell.get w).hasConsumer id consumer)
  record id consumer := do
    let now ← Action.ask clock
    let answer ← cell.focus (recordConsumer id consumer now)
    pure (.ok answer)

end Store

end EventOutbox
