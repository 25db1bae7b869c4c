import EventOutbox.Delivery.Handler

/-!
# The event bus

A bus keeps a log of what was published and calls the subscribed handlers of an event's type, all of
them in the order of their subscription, whatever the others answer.
-/

namespace EventOutbox

/-! ## §1 Subscriptions -/

/-- A handler with the kind of events that it is subscribed to. -/
structure Subscription (W κ : Type) [EventCatalog κ] where
  kind : κ
  handler : Handler W kind

/-- The subscribed handlers, in the order of their subscription. -/
structure Bus (W κ : Type) [EventCatalog κ] where
  subscriptions : List (Subscription W κ) := []

variable {W κ : Type} [EventCatalog κ]

namespace Subscription

/-- The type of the events that reach the handler. -/
def eventType (s : Subscription W κ) : String :=
  (EventCatalog.schema s.kind).discriminator

/-- The failure of a handler that gets an event of another kind with the same type. -/
def mismatch (s : Subscription W κ) (e : Event κ) : Failure :=
  .plain .internalError s!"Handler {s.handler.name} expects {s.eventType}, got {e.eventType}"

/-- Give an event to the handler, if it is of the handler's kind. -/
def deliver [DecidableEq κ] (s : Subscription W κ) (e : Event κ) : Action W (Except Failure Unit) :=
  if h : e.kind = s.kind then s.handler.handle (h ▸ e.body) else pure (.error (s.mismatch e))

end Subscription

/-! ## §2 Publishing -/

namespace Bus

/-- Subscribe a handler. -/
def subscribe (b : Bus W κ) (s : Subscription W κ) : Bus W κ :=
  ⟨b.subscriptions ++ [s]⟩

/-- The subscriptions that an event of a type reaches. -/
def subscribers (b : Bus W κ) (eventType : String) : List (Subscription W κ) :=
  b.subscriptions.filter fun s => s.eventType = eventType

/-- The number of handlers of a type. -/
def handlerCount (b : Bus W κ) (eventType : String) : Nat :=
  (b.subscribers eventType).length

/-- Give an event to handlers one after the other; answers with the failures and the names of the
handlers that reported them. -/
def deliverAll [DecidableEq κ] (e : Event κ) :
    List (Subscription W κ) → Action W (List (String × Failure))
  | [] => pure []
  | s :: ss => do
    let answer ← s.deliver e
    let failures ← deliverAll e ss
    match answer with
    | .ok () => pure failures
    | .error f => pure ((s.handler.name, f) :: failures)

/-- The one failure that the failures of several handlers amount to. -/
def summary (e : Event κ) (failures : List (String × Failure)) : Failure :=
  let lines := failures.map fun (name, f) => s!"{name}: {f.text}"
  let report := ", ".intercalate lines
  (Failure.plain .handlerFailed s!"Handler errors: {report}").withDetail "event_id" e.id.text

/-- Publish an event: write it to the log, then give it to every handler of its type. -/
def publish [DecidableEq κ] (b : Bus W κ) (log : Cell W (List (Event κ))) (e : Event κ) :
    Action W (Except Failure Unit) := do
  log.modify (· ++ [e])
  let failures ← deliverAll e (b.subscribers e.eventType)
  if failures.isEmpty then pure (.ok ()) else pure (.error (summary e failures))

/-! ## §3 The log -/

/-- The published events of a type, in order. -/
def eventsOfType (eventType : String) (log : List (Event κ)) : List (Event κ) :=
  log.filter fun e => e.eventType = eventType

/-- Whether an event of a type was published. -/
def hasEvent (eventType : String) (log : List (Event κ)) : Bool :=
  log.any fun e => e.eventType = eventType

end Bus

end EventOutbox
