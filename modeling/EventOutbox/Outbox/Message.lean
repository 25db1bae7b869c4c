import EventOutbox.Event.Basic

/-!
# Outbox rows

The stored form of a raised event, with its delivery state: whether it is processed, how many
attempts failed, and the text of the last failure.
-/

namespace EventOutbox

/-! ## §1 The type -/

/-- A stored event on its way to the handlers. -/
structure Message where
  id : Uuid
  eventType : String
  payload : Json
  aggregateType : String
  aggregateId : String
  transactionId : Uuid
  createdAt : Instant
  processedAt : Option Instant
  retryCount : UInt32
  lastError : Option String
deriving DecidableEq

namespace Message

/-- The row of an event that was just raised by an entity, or the reason why the event has no JSON
form. -/
def ofEvent {κ : Type} [EventCatalog κ] (e : Event κ) (aggregateType aggregateId : String)
    (transactionId : Uuid) (createdAt : Instant) : Except String Message :=
  e.payload.map fun payload =>
    { id := e.id, eventType := e.eventType, payload, aggregateType, aggregateId, transactionId,
      createdAt, processedAt := none, retryCount := 0, lastError := none }

/-! ## §2 Delivery state -/

/-- Whether a row still waits to be processed. -/
def isPending (m : Message) : Bool :=
  m.processedAt.isNone

/-- The row as processed. -/
def markProcessed (m : Message) (at_ : Instant) : Message :=
  { m with processedAt := some at_ }

/-- The row after one more failed attempt; `none` when the counter is full. -/
def recordFailure? (m : Message) (error : String) : Option Message :=
  if m.retryCount.toNat + 1 < UInt32.size then
    some { m with retryCount := m.retryCount + 1, lastError := some error }
  else none

/-- Whether a row has used up its attempts, when they are limited. -/
def attemptsExhausted (m : Message) (maxAttempts : Option UInt32) : Bool :=
  match maxAttempts with
  | some most => most ≤ m.retryCount
  | none => false

/-! ## §3 The JSON form -/

/-- The fields of the JSON form. -/
def fields : Fields :=
  .cons "id" .required .uuid <|
    .cons "event_type" .required .text <|
      .cons "payload" .required .any <|
        .cons "aggregate_type" .required .text <|
          .cons "aggregate_id" .required .text <|
            .cons "transaction_id" .required .uuid <|
              .cons "created_at" .required .instant <|
                .cons "processed_at" .required (.option .instant) <|
                  .cons "retry_count" .required .u32 <|
                    .cons "last_error" .required (.option .text) .nil

/-- The shape of the JSON form. -/
def shape : Shape := .record "OutboxMessage" fields

/-- The row with the given fields. -/
def ofVal : fields.Val → Message
  | (id, eventType, payload, aggregateType, aggregateId, transactionId, createdAt, processedAt,
      retryCount, lastError, ()) =>
    { id, eventType, payload, aggregateType, aggregateId, transactionId, createdAt, processedAt,
      retryCount, lastError }

/-- The fields of a row. -/
def toVal (m : Message) : fields.Val :=
  (m.id, m.eventType, m.payload, m.aggregateType, m.aggregateId, m.transactionId, m.createdAt,
    m.processedAt, m.retryCount, m.lastError, ())

/-- Read a row from its JSON form. -/
def ofJson (j : Json) : Except DecodeError Message :=
  (shape.decode j).map ofVal

/-- The JSON form of a row. -/
def toJson (m : Message) : Json :=
  shape.encode m.toVal

end Message

end EventOutbox
