import EventOutbox.Actor.Basic

/-!
# Who acts now

A unit of work asks an `ActorSource` who acts.  A source names nobody, always the same actor, or the
actor of the innermost scope that the work runs in.
-/

namespace EventOutbox

/-- Work whose meaning depends on the actor of the scope around it. -/
abbrev Scoped (α : Type) : Type := Option Actor → α

/-- Run work in the scope of an actor. -/
def withActor {α : Type} (actor : Actor) (work : Scoped α) : Scoped α :=
  fun _ => work (some actor)

/-- Where the acting actor is learnt from. -/
inductive ActorSource where
  /-- Nobody acts but the system. -/
  | system
  /-- Always the same actor. -/
  | fixed (actor : Actor)
  /-- The actor of the innermost scope. -/
  | scoped
deriving DecidableEq, Repr

/-- The actor that a source reports. -/
def ActorSource.current : ActorSource → Scoped (Option Actor)
  | .system, _ => none
  | .fixed actor, _ => some actor
  | .scoped, scope => scope

end EventOutbox
