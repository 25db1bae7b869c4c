import EventOutbox.Database.Row
import EventOutbox.Outbox.Access
import EventOutbox.Store.Change

/-!
# A store in a database

Change sets, outbox rows and the ledger in the tables of a database.  A change set is written in one
transaction; an update names the version that it expects, and when no row has it somebody else was
first.
-/

namespace EventOutbox.Database

/-! ## §1 Reports -/

/-- A problem as a failure. -/
def failure (context : String) (p : Problem) : Failure :=
  .database context p.message

/-- The code of a server that could not put concurrent transactions in an order. -/
def serializationFailure : String := "40001"

/-- A problem as a refusal to write a change set. -/
def refusal (context : String) (p : Problem) : StoreError :=
  let text := s!"{context}: {p.message}"
  match p with
  | .server code _ =>
    if code = serializationFailure then .concurrency "" "" text else .database text
  | .transport _ | .encryption _ | .unexpectedData _ | .poolTimedOut | .poolClosed
  | .workerCrashed => .database text
  | .configuration _ | .noRow | .noColumn _ | .column _ _ => .storage text

/-! ## §2 Writing change sets -/

variable {W : Type}

/-- The greatest number in a column of signed numbers of 64 bits. -/
def maxBigInteger : Nat := 9223372036854775807

/-- A version as the value of a column. -/
def versionValue (v : UInt64) : Except StoreError Int :=
  if v.toNat ≤ maxBigInteger then .ok v.toNat else .error (.storage s!"Version {v} out of range")

/-- Why an update found no row with the version that it expects. -/
def versionNotFound (c : Change) (expected : UInt64) : StoreError :=
  .concurrency c.entityType c.entityId s!"expected version {expected} not found"

/-- The statement of a change that leaves the row with a version. -/
def changeStatement (c : Change) (next : Int) : Except StoreError Statement :=
  match c.kind with
  | .insert => .ok (.insertEntity c.entityType c.entityId next c.state)
  | .update expected =>
    (versionValue expected).map (.updateEntity c.entityType c.entityId next c.state)

/-- What the reply to the statement of a change means. -/
def changeOutcome (c : Change) : Except Problem Reply → Except StoreError Unit
  | .error p =>
    match c.kind with
    | .insert => .error (refusal "Failed to insert entity" p)
    | .update _ => .error (refusal "Failed to update entity" p)
  | .ok r =>
    match c.kind with
    | .insert => .ok ()
    | .update expected => if r.affected = 0 then .error (versionNotFound c expected) else .ok ()

/-- Write a change inside a transaction. -/
def writeChange (pool : Pool W) (c : Change) : Action W (Except StoreError Unit) := do
  let next ← c.nextVersion
  match (versionValue next).bind (changeStatement c) with
  | .error e => pure (.error e)
  | .ok statement => pure (changeOutcome c (← pool.send (.statement statement)))

/-- Write changes one after the other, up to the first that fails; answers with their number. -/
def writeChanges (pool : Pool W) : List Change → Action W (Except StoreError Nat)
  | [] => pure (.ok 0)
  | c :: cs => do
    match ← writeChange pool c with
    | .error e => pure (.error e)
    | .ok () => pure ((← writeChanges pool cs).map (1 + ·))

/-- Write outbox rows one after the other, up to the first that fails; answers with the number of
those that were new. -/
def writeMessages (pool : Pool W) : List Message → Action W (Except StoreError Nat)
  | [] => pure (.ok 0)
  | m :: ms => do
    match ← pool.send (.statement (.insertMessage m)) with
    | .error p => pure (.error (refusal "Failed to insert outbox message" p))
    | .ok r => pure ((← writeMessages pool ms).map (r.affected + ·))

/-- Write a change set inside a transaction. -/
def writeAll (pool : Pool W) (cs : ChangeSet) :
    Action W (Except StoreError (Pool.Ending × Receipt)) := do
  match ← writeChanges pool cs.entities with
  | .error e => pure (.error e)
  | .ok entitiesWritten =>
    match ← writeMessages pool cs.messages with
    | .error e => pure (.error e)
    | .ok messagesWritten => pure (.ok (.keep, { entitiesWritten, messagesWritten }))

/-- Write a change set. -/
def commit (pool : Pool W) (cs : ChangeSet) : Action W (Except StoreError Receipt) :=
  pool.transaction refusal (writeAll pool cs)

/-- Change sets go into a database. -/
def committer (pool : Pool W) : Committer W where
  commit := commit pool

/-! ## §3 Outbox rows -/

/-- Why an operation on an unknown message fails. -/
def notFound (id : Uuid) : Failure :=
  .plain .messageNotFound s!"Outbox message not found: {id}"

/-- The greatest number in a column of signed numbers of 32 bits. -/
def maxInteger : Nat := 2147483647

/-- A limit of attempts as the value of a parameter. -/
def attemptsValue (most : UInt32) : Int :=
  (min most.toNat maxInteger : Nat)

/-- What the reply to a statement about one outbox row means. -/
def rowOutcome (context : String) (id : Uuid) : Except Problem Reply → Except Failure Unit
  | .error p => .error (failure context p)
  | .ok r => if r.affected = 0 then .error (notFound id) else .ok ()

/-- The oldest pending rows with attempts left. -/
def fetch (pool : Pool W) (limit : UInt32) (maxAttempts : Option UInt32) :
    Action W (Except Failure (List Message)) := do
  match ← pool.execute (.fetchMessages limit.toNat (maxAttempts.map attemptsValue)) with
  | .error p => pure (.error (failure "Failed to fetch outbox messages" p))
  | .ok r => pure ((r.rows.mapM readMessage).mapError (failure "Failed to decode outbox row"))

/-- Mark a row processed. -/
def markProcessed (pool : Pool W) (id : Uuid) (at_ : Instant) : Action W (Except Failure Unit) := do
  let reply ← pool.execute (.markProcessed id at_)
  pure (rowOutcome "Failed to mark outbox message processed" id reply)

/-- Count a failed attempt of a row. -/
def recordFailure (pool : Pool W) (id : Uuid) (error : String) :
    Action W (Except Failure Unit) := do
  let reply ← pool.execute (.recordFailure id error)
  pure (rowOutcome "Failed to record outbox failure" id reply)

/-- The row with an identifier, if there is one. -/
def find? (pool : Pool W) (id : Uuid) : Action W (Except Failure (Option Message)) := do
  match ← pool.execute (.findMessage id) with
  | .error p => pure (.error (failure "Failed to fetch outbox message" p))
  | .ok r =>
    match r.rows with
    | [] => pure (.ok none)
    | row :: _ =>
      pure (((readMessage row).mapError (failure "Failed to decode outbox row")).map some)

/-- Delivery works on a database. -/
def outboxAccess (pool : Pool W) : OutboxAccess W where
  fetch := fetch pool
  markProcessed := markProcessed pool
  recordFailure := recordFailure pool

end EventOutbox.Database
