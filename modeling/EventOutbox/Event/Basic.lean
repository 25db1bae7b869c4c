import EventOutbox.Json.Decoder
import EventOutbox.Json.Encoder

/-!
# Events

An application names its kinds of events by a type `κ` and describes each kind by an `EventSchema`.
An event is a kind together with the values of that kind's fields.  Kinds are told apart in storage
by their discriminator, which several kinds may share.
-/

namespace EventOutbox

/-! ## §1 Kinds of events -/

/-- The description of a kind of events. -/
structure EventSchema where
  /-- The name of the kind in the application. -/
  name : String
  /-- The name under which its events are stored and routed. -/
  discriminator : String
  /-- The fields of its events. -/
  fields : Fields
  /-- The identifier of an event. -/
  id : fields.Val → Uuid
  /-- When an event occurred. -/
  occurredAt : fields.Val → Instant
  /-- Why an event cannot be written as JSON, if it cannot. -/
  refusal : fields.Val → Option String := fun _ => none

/-- An application's kinds of events. -/
class EventCatalog (κ : Type) where
  /-- The description of a kind. -/
  schema : κ → EventSchema

/-- The values of the fields of an event of a kind. -/
abbrev EventBody {κ : Type} [EventCatalog κ] (kind : κ) : Type :=
  (EventCatalog.schema kind).fields.Val

/-! ## §2 Events -/

/-- An event: its kind and the values of its fields. -/
structure Event (κ : Type) [EventCatalog κ] where
  kind : κ
  body : EventBody kind

namespace Event

variable {κ : Type} [EventCatalog κ]

/-- The description of the kind of an event. -/
def schema (e : Event κ) : EventSchema := EventCatalog.schema e.kind

/-- The name under which an event is stored and routed. -/
def eventType (e : Event κ) : String := e.schema.discriminator

/-- The identifier of an event. -/
def id (e : Event κ) : Uuid := e.schema.id e.body

/-- When an event occurred. -/
def occurredAt (e : Event κ) : Instant := e.schema.occurredAt e.body

/-- The JSON form of an event, or the reason why it has none. -/
def payload (e : Event κ) : Except String Json :=
  match e.schema.refusal e.body with
  | some reason => .error reason
  | none => .ok (.object (e.schema.fields.encode e.body))

/-- The shape of the JSON form of a kind of events. -/
def shape (kind : κ) : Shape :=
  .record (EventCatalog.schema kind).name (EventCatalog.schema kind).fields

/-- Read an event of a kind from its JSON form. -/
def ofPayload (kind : κ) (j : Json) : Except DecodeError (Event κ) :=
  ((shape kind).decode j).map fun body => ⟨kind, body⟩

end Event

end EventOutbox
