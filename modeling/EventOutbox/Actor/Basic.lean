import EventOutbox.Failure
import EventOutbox.Json.Decoder
import EventOutbox.Json.Encoder

/-!
# Actors

Who makes a change.  Only an authenticated actor with a name that is not blank is written into audit
fields; every other change is the system's.
-/

namespace EventOutbox

/-! ## §1 The type -/

/-- Someone who makes changes. -/
structure Actor where
  name : String
  authenticated : Bool
deriving DecidableEq, Repr

namespace Actor

/-- The name under which unattributed changes are recorded. -/
def systemName : String := "System"

/-- An authenticated actor; the name must not be blank. -/
def authenticate (name : String) : Except FieldProblem Actor :=
  if Text.isBlank name then .error (.empty "actor") else .ok ⟨name, true⟩

/-- An actor who has a name but no identity. -/
def anonymous (name : String) : Actor :=
  ⟨name, false⟩

/-- The name that audit fields get. -/
def auditName : Option Actor → String
  | some a => if a.authenticated && !Text.isBlank a.name then a.name else systemName
  | none => systemName

/-! ## §2 The JSON form -/

/-- The fields of the JSON form. -/
def fields : Fields :=
  .cons "name" .required .text <| .cons "authenticated" .required .bool .nil

/-- The shape of the JSON form. -/
def shape : Shape := .record "Actor" fields

/-- The actor with the given fields. -/
def ofVal : fields.Val → Actor
  | (name, authenticated, ()) => ⟨name, authenticated⟩

/-- The fields of an actor. -/
def toVal (a : Actor) : fields.Val :=
  (a.name, a.authenticated, ())

/-- Read an actor from its JSON form. -/
def ofJson (j : Json) : Except DecodeError Actor :=
  (shape.decode j).map ofVal

/-- The JSON form of an actor. -/
def toJson (a : Actor) : Json :=
  shape.encode a.toVal

end Actor

end EventOutbox
