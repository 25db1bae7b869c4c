import EventOutbox.Json.Decoder
import EventOutbox.Json.Encoder

/-!
# Ledger rows

The record that a consumer has handled a message.  A row's key is the message together with the name
of the consumer.
-/

namespace EventOutbox

/-- A message and the name of a consumer. -/
abbrev LedgerKey : Type := Uuid × String

/-- The record that a consumer has handled a message. -/
structure LedgerRow where
  messageId : Uuid
  consumer : String
  processedAt : Instant
deriving DecidableEq

namespace LedgerRow

/-- The key under which a row is filed. -/
def key (r : LedgerRow) : LedgerKey :=
  (r.messageId, r.consumer)

/-- The fields of the JSON form. -/
def fields : Fields :=
  .cons "message_id" .required .uuid <|
    .cons "consumer_name" .required .text <| .cons "processed_at" .required .instant .nil

/-- The shape of the JSON form. -/
def shape : Shape := .record "OutboxMessageConsumer" fields

/-- The row with the given fields. -/
def ofVal : fields.Val → LedgerRow
  | (messageId, consumer, processedAt, ()) => { messageId, consumer, processedAt }

/-- The fields of a row. -/
def toVal (r : LedgerRow) : fields.Val :=
  (r.messageId, r.consumer, r.processedAt, ())

/-- Read a row from its JSON form. -/
def ofJson (j : Json) : Except DecodeError LedgerRow :=
  (shape.decode j).map ofVal

/-- The JSON form of a row. -/
def toJson (r : LedgerRow) : Json :=
  shape.encode r.toVal

end LedgerRow

end EventOutbox
