import EventOutbox.Event.Basic
import EventOutbox.Outbox.Access

/-!
# Handlers

A handler works on events of one kind.  The idempotent form of a handler asks a ledger before each
event whether the event is handled already, and records it afterwards.
-/

namespace EventOutbox

variable {W κ : Type} [EventCatalog κ]

/-! ## §1 Handlers -/

/-- A handler for the events of one kind. -/
structure Handler (W : Type) {κ : Type} [EventCatalog κ] (kind : κ) where
  /-- The name under which the handler is known to the ledger and in reports. -/
  name : String
  /-- What the handler does with an event. -/
  handle : EventBody kind → Action W (Except Failure Unit)

/-! ## §2 Idempotent handlers -/

/-- The handler that skips events which the ledger shows as handled, and records those that it
handles.  An event recorded by another delivery in between counts as success. -/
def Handler.idempotent {kind : κ} (ledger : LedgerAccess W) (inner : Handler W kind) :
    Handler W kind where
  name := inner.name
  handle body := do
    let id := (EventCatalog.schema kind).id body
    match ← ledger.contains id inner.name with
    | .error f => pure (.error f)
    | .ok true => pure (.ok ())
    | .ok false =>
      match ← inner.handle body with
      | .error f => pure (.error f)
      | .ok () =>
        match ← ledger.record id inner.name with
        | .error f => pure (.error f)
        | .ok _ => pure (.ok ())

end EventOutbox
