import EventOutbox.Outbox.Message

/-!
# Statements

The statements that are sent to a database server: what they mean, their text, and the values of
their parameters.  A parameter is written as a dollar sign and its number.
-/

namespace EventOutbox.Database

/-! ## §1 Values -/

/-- A value of a column or of a parameter. -/
inductive Value where
  | null
  | text (s : String)
  | uuid (u : Uuid)
  | instant (t : Instant)
  /-- A number of 32 bits. -/
  | integer (n : Int)
  /-- A number of 64 bits. -/
  | bigInteger (n : Int)
  | json (j : Json)
  | bool (b : Bool)
deriving DecidableEq

/-- The name of the type of a value. -/
def Value.typeName : Value → String
  | .null => "NULL"
  | .text _ => "TEXT"
  | .uuid _ => "UUID"
  | .instant _ => "TIMESTAMPTZ"
  | .integer _ => "INT4"
  | .bigInteger _ => "INT8"
  | .json _ => "JSONB"
  | .bool _ => "BOOL"

/-! ## §2 Statements -/

/-- A statement. -/
inductive Statement where
  /-- Add the row of a new entity. -/
  | insertEntity (entityType entityId : String) (version : Int) (state : Json)
  /-- Replace the row of an entity, if it has the expected version. -/
  | updateEntity (entityType entityId : String) (version : Int) (state : Json) (expected : Int)
  /-- Add an outbox row, unless its identifier is taken. -/
  | insertMessage (m : Message)
  /-- The oldest pending outbox rows with attempts left. -/
  | fetchMessages (limit : Int) (maxAttempts : Option Int)
  /-- Mark an outbox row processed; the first mark stays. -/
  | markProcessed (id : Uuid) (at_ : Instant)
  /-- Count a failed attempt of an outbox row. -/
  | recordFailure (id : Uuid) (error : String)
  /-- The outbox row with an identifier. -/
  | findMessage (id : Uuid)
  /-- Whether the ledger has a row. -/
  | hasConsumer (id : Uuid) (consumer : String)
  /-- Add a ledger row, unless it exists. -/
  | insertConsumer (id : Uuid) (consumer : String)
  /-- A statement of an application. -/
  | other (sql : String) (parameters : List Value)
deriving DecidableEq

namespace Statement

/-- The text of a statement. -/
def text : Statement → String
  | .insertEntity .. =>
    "INSERT INTO entity_rows (entity_type, entity_id, version, state) VALUES ($1, $2, $3, $4)"
  | .updateEntity .. =>
    "UPDATE entity_rows SET version = $3, state = $4, updated_at = NOW() " ++
      "WHERE entity_type = $1 AND entity_id = $2 AND version = $5"
  | .insertMessage _ =>
    "INSERT INTO outbox_messages ( id, event_type, payload, aggregate_type, aggregate_id, " ++
      "transaction_id, created_at, processed_at, retry_count, last_error ) " ++
      "VALUES ($1, $2, $3, $4, $5, $6, $7, NULL, 0, NULL) ON CONFLICT (id) DO NOTHING"
  | .fetchMessages .. =>
    "SELECT id, event_type, payload, aggregate_type, aggregate_id, transaction_id, created_at, " ++
      "processed_at, retry_count, last_error FROM outbox_messages WHERE processed_at IS NULL " ++
      "AND ($2::INTEGER IS NULL OR retry_count < $2) ORDER BY created_at, seq LIMIT $1"
  | .markProcessed .. =>
    "UPDATE outbox_messages SET processed_at = COALESCE(processed_at, $2) WHERE id = $1"
  | .recordFailure .. =>
    "UPDATE outbox_messages SET retry_count = retry_count + 1, last_error = $2 WHERE id = $1"
  | .findMessage _ =>
    "SELECT id, event_type, payload, aggregate_type, aggregate_id, transaction_id, created_at, " ++
      "processed_at, retry_count, last_error FROM outbox_messages WHERE id = $1"
  | .hasConsumer .. =>
    "SELECT EXISTS ( SELECT 1 FROM outbox_message_consumers " ++
      "WHERE message_id = $1 AND consumer_name = $2 )"
  | .insertConsumer .. =>
    "INSERT INTO outbox_message_consumers (message_id, consumer_name, processed_at) " ++
      "VALUES ($1, $2, NOW()) ON CONFLICT (message_id, consumer_name) DO NOTHING"
  | .other sql _ => sql

/-- The values of the parameters of a statement, in their order. -/
def parameters : Statement → List Value
  | .insertEntity entityType entityId version state =>
    [.text entityType, .text entityId, .bigInteger version, .json state]
  | .updateEntity entityType entityId version state expected =>
    [.text entityType, .text entityId, .bigInteger version, .json state, .bigInteger expected]
  | .insertMessage m =>
    [.uuid m.id, .text m.eventType, .json m.payload, .text m.aggregateType, .text m.aggregateId,
      .uuid m.transactionId, .instant m.createdAt]
  | .fetchMessages limit maxAttempts =>
    [.bigInteger limit, maxAttempts.elim .null .integer]
  | .markProcessed id at_ => [.uuid id, .instant at_]
  | .recordFailure id error => [.uuid id, .text error]
  | .findMessage id => [.uuid id]
  | .hasConsumer id consumer | .insertConsumer id consumer => [.uuid id, .text consumer]
  | .other _ parameters => parameters

end Statement

end EventOutbox.Database
