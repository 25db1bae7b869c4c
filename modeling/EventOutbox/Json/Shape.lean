import EventOutbox.Instant.Text
import EventOutbox.Json.Basic
import EventOutbox.Uuid

/-!
# Shapes of JSON values

A `Shape` describes which JSON values a typed reader accepts, and `Shape.Val` is the type of what it
reads.  Records list their fields in order; a field may be required or may be left out.
-/

namespace EventOutbox

/-! ## §1 Shapes -/

/-- What happens when a field is left out. -/
inductive Presence where
  /-- The field must be there, unless its shape is optional. -/
  | required
  /-- The reader of the record fills in a value of its own. -/
  | defaulted
deriving DecidableEq, Repr

mutual

/-- A shape of JSON values. -/
inductive Shape where
  | uuid
  | instant
  | bool
  | text
  | u32
  | u64
  | i64
  | any
  | option (s : Shape)
  | list (s : Shape)
  | record (name : String) (fields : Fields)

/-- The fields of a record, in order. -/
inductive Fields where
  | nil
  | cons (name : String) (presence : Presence) (shape : Shape) (rest : Fields)

end

/-! ## §2 Typed values -/

mutual

/-- The type of the values that a shape describes. -/
def Shape.Val : Shape → Type
  | .uuid => Uuid
  | .instant => Instant
  | .bool => Bool
  | .text => String
  | .u32 => UInt32
  | .u64 => UInt64
  | .i64 => Int64
  | .any => Json
  | .option s => Option s.Val
  | .list s => List s.Val
  | .record _ fs => fs.Val

/-- The type of the values of all fields. -/
def Fields.Val : Fields → Type
  | .nil => Unit
  | .cons _ .required s rest => s.Val × rest.Val
  | .cons _ .defaulted s rest => Option s.Val × rest.Val

end

namespace Fields

/-- The names of the fields, in order. -/
def names : Fields → List String
  | .nil => []
  | .cons name _ _ rest => name :: rest.names

/-- The number of fields. -/
def count (fs : Fields) : Nat :=
  fs.names.length

end Fields

end EventOutbox
