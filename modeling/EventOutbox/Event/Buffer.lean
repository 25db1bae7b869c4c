import EventOutbox.Event.Basic

/-!
# Buffers of raised events

The events that an entity has raised and that are not stored yet, in the order in which they were
raised.
-/

namespace EventOutbox

/-- Events waiting to be stored, the oldest first. -/
structure EventBuffer (κ : Type) [EventCatalog κ] where
  pending : List (Event κ) := []

namespace EventBuffer

variable {κ : Type} [EventCatalog κ]

/-- Add an event at the end. -/
def raise (b : EventBuffer κ) (e : Event κ) : EventBuffer κ :=
  ⟨b.pending ++ [e]⟩

/-- Drop all events. -/
def clear (_ : EventBuffer κ) : EventBuffer κ :=
  {}

/-- The number of events. -/
def size (b : EventBuffer κ) : Nat :=
  b.pending.length

/-- Whether no event waits. -/
def isEmpty (b : EventBuffer κ) : Bool :=
  b.pending.isEmpty

end EventBuffer

end EventOutbox
