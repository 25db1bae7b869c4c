import EventOutbox.Action
import EventOutbox.Failure
import EventOutbox.Outbox.LedgerRow
import EventOutbox.Outbox.Message

/-!
# What delivery asks of a store

A dispatcher reads and updates outbox rows through an `OutboxAccess`; handlers that must not repeat
their work use a `LedgerAccess`.
-/

namespace EventOutbox

/-- Access to the outbox rows of a store. -/
structure OutboxAccess (W : Type) where
  /-- The oldest pending rows, at most `limit` of them, without those that used up their attempts.
  -/
  fetch : (limit : UInt32) → (maxAttempts : Option UInt32) →
    Action W (Except Failure (List Message))
  /-- Mark a row processed; the first mark stays. -/
  markProcessed : Uuid → Instant → Action W (Except Failure Unit)
  /-- Count a failed attempt and keep its text. -/
  recordFailure : Uuid → String → Action W (Except Failure Unit)

/-- Whether a ledger row is new. -/
inductive LedgerAnswer where
  | inserted
  | alreadyRecorded
deriving DecidableEq, Repr

/-- Access to a ledger of handled messages. -/
structure LedgerAccess (W : Type) where
  /-- Whether a consumer has handled a message. -/
  contains : Uuid → String → Action W (Except Failure Bool)
  /-- Record that a consumer has handled a message. -/
  record : Uuid → String → Action W (Except Failure LedgerAnswer)

end EventOutbox
