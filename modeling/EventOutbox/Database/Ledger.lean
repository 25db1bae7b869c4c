import EventOutbox.Database.Store
import EventOutbox.Delivery.Handler

/-!
# A ledger in a database

Which consumers have handled which messages, in a table of a database.  A handler whose own writes
go to the same database can do its work and add its ledger row in one transaction, so that both
are kept or neither.
-/

namespace EventOutbox.Database

variable {W κ : Type} [EventCatalog κ]

/-! ## §1 The ledger -/

/-- Whether a consumer has handled a message. -/
def hasConsumer (pool : Pool W) (id : Uuid) (consumer : String) :
    Action W (Except Failure Bool) := do
  let reply ← pool.execute (.hasConsumer id consumer)
  pure ((reply.bind fun r => readTruth r.rows).mapError (failure "Failed to check consumer ledger"))

/-- What the reply to the insertion of a ledger row means. -/
def ledgerAnswer (r : Reply) : LedgerAnswer :=
  if r.affected = 0 then .alreadyRecorded else .inserted

/-- Record that a consumer has handled a message. -/
def recordConsumer (pool : Pool W) (id : Uuid) (consumer : String) :
    Action W (Except Failure LedgerAnswer) := do
  let reply ← pool.execute (.insertConsumer id consumer)
  pure ((reply.map ledgerAnswer).mapError (failure "Failed to record consumer"))

/-- The ledger of a database. -/
def ledgerAccess (pool : Pool W) : LedgerAccess W where
  contains := hasConsumer pool
  record := recordConsumer pool

/-! ## §2 Handlers in a transaction -/

/-- A handler that writes to the database through the transaction of its caller. -/
structure TransactionalHandler (W : Type) {κ : Type} [EventCatalog κ] (kind : κ) where
  name : String
  /-- What the handler does with an event; statements are executed by the function given. -/
  handle : EventBody kind → (execute : Statement → Action W (Except Problem Reply)) →
    Action W (Except Failure Unit)

/-- The work of a handler inside a transaction: add the ledger row, and go on only if it is new. -/
def TransactionalHandler.work {kind : κ} (pool : Pool W) (inner : TransactionalHandler W kind)
    (body : EventBody kind) : Action W (Except Failure (Pool.Ending × Unit)) := do
  let id := (EventCatalog.schema kind).id body
  match ← pool.send (.statement (.insertConsumer id inner.name)) with
  | .error p => pure (.error (failure "Failed to record consumer" p))
  | .ok r =>
    match ledgerAnswer r with
    | .alreadyRecorded => pure (.ok (.discard, ()))
    | .inserted =>
      let outcome ← inner.handle body fun s => pool.send (.statement s)
      pure (outcome.map fun _ => (.keep, ()))

/-- The handler that does its work once for each event: the ledger row and the work are committed
together. -/
def TransactionalHandler.idempotent {kind : κ} (pool : Pool W)
    (inner : TransactionalHandler W kind) : Handler W kind where
  name := inner.name
  handle body := pool.transaction failure (inner.work pool body)

end EventOutbox.Database
