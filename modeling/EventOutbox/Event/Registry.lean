import EventOutbox.Event.Basic
import EventOutbox.Failure

/-!
# The registry of event kinds

A registry knows which kind of events a stored discriminator stands for.  When several kinds share a
discriminator, the one registered last counts.
-/

namespace EventOutbox

/-! ## §1 Registries -/

/-- The kinds that stored events may have, the one registered last first. -/
structure Registry (κ : Type) where
  kinds : List κ := []

/-- Why a stored event cannot be read. -/
inductive RegistryError where
  | unknown (eventType : String)
  | malformed (eventType : String) (cause : DecodeError)
deriving DecidableEq

/-- The wording of a registry's refusal. -/
def RegistryError.message : RegistryError → String
  | .unknown eventType => s!"No decoder registered for event type '{eventType}'"
  | .malformed eventType cause =>
    s!"Payload for '{eventType}' could not be decoded: {cause.message}"

/-- A registry's refusal as a failure. -/
def RegistryError.failure (e : RegistryError) : Failure :=
  match e with
  | .unknown _ => .plain .unknownEventType e.message
  | .malformed _ _ => .plain .serializationError e.message

namespace Registry

variable {κ : Type} [EventCatalog κ]

/-- Register a kind under its discriminator. -/
def register (r : Registry κ) (kind : κ) : Registry κ :=
  ⟨kind :: r.kinds⟩

/-- The registry of several kinds, registered in order. -/
def ofList (kinds : List κ) : Registry κ :=
  kinds.foldl register {}

/-- The kind that a discriminator stands for. -/
def find? (r : Registry κ) (eventType : String) : Option κ :=
  r.kinds.find? fun kind => (EventCatalog.schema kind).discriminator = eventType

/-- Whether a discriminator is known. -/
def contains (r : Registry κ) (eventType : String) : Bool :=
  (r.find? eventType).isSome

/-- The known discriminators, in increasing order. -/
def eventTypes (r : Registry κ) : List String :=
  ((r.kinds.map fun kind => (EventCatalog.schema kind).discriminator).eraseDups).mergeSort
    fun a b => a ≤ b

/-- Read a stored event. -/
def decode (r : Registry κ) (eventType : String) (payload : Json) :
    Except RegistryError (Event κ) :=
  match r.find? eventType with
  | none => .error (.unknown eventType)
  | some kind => (Event.ofPayload kind payload).mapError (.malformed eventType)

/-- A registry as it shows itself. -/
def text (r : Registry κ) : String :=
  let types := ", ".intercalate (r.eventTypes.map Text.quote)
  s!"EventRegistry \x7b event_types: [{types}] \x7d"

end Registry

end EventOutbox
