import EventOutbox.Audit
import EventOutbox.Event.Buffer

/-!
# Entities

A business object as the unit of work sees it: its key, the version it was loaded at, its audit
fields if it has any, the events it has raised, and the row in which its state is stored.
-/

namespace EventOutbox

/-- A business object. -/
structure Entity (κ : Type) [EventCatalog κ] where
  entityType : String
  entityId : String
  version : UInt64
  audit : Option Audit
  buffer : EventBuffer κ
  /-- The stored form of the state, or why it has none.  The audit fields are part of it, and the
  unit of work stamps them just before. -/
  row : Option Audit → Except String Json

namespace Entity

variable {κ : Type} [EventCatalog κ]

/-- The stored form of the state. -/
def state (e : Entity κ) : Except String Json :=
  e.row e.audit

/-- The entity after it raised an event. -/
def raise (e : Entity κ) (event : Event κ) : Entity κ :=
  { e with buffer := e.buffer.raise event }

end Entity

end EventOutbox
