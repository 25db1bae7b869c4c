import EventOutbox.Json.Shape

/-!
# From typed values to JSON

Every typed value has one JSON form: identifiers and instants as their texts, absent optional values
as null, records as objects with all their fields.
-/

namespace EventOutbox

mutual

/-- The JSON form of a typed value. -/
def Shape.encode : (s : Shape) → s.Val → Json
  | .uuid, v => .text (Uuid.text v)
  | .instant, v => .text (Instant.text v)
  | .bool, v => .bool v
  | .text, v => .text v
  | .u32, v => .integer (UInt32.toNat v)
  | .u64, v => .integer (UInt64.toNat v)
  | .i64, v => .integer (Int64.toInt v)
  | .any, v => v
  | .option s, v =>
    match v with
    | some v => s.encode v
    | none => .null
  | .list s, v => .array (List.map s.encode v)
  | .record _ fs, v => .object (fs.encode v)

/-- The entries of a record, in the order of its fields. -/
def Fields.encode : (fs : Fields) → fs.Val → List (String × Json)
  | .nil, _ => []
  | .cons name .required s rest, (v, vs) => (name, s.encode v) :: rest.encode vs
  | .cons name .defaulted s rest, (v, vs) =>
    match v with
    | some v => (name, s.encode v) :: rest.encode vs
    | none => rest.encode vs

end

end EventOutbox
