import EventOutbox.Json.Shape
import EventOutbox.Text.Quoted

/-!
# From JSON to typed values

A reader for every shape.  A record is read from an object or from an array of its fields in order;
unknown names are ignored.  Of several faults in an object, a refused value is reported before a
missing field, the refused value with the least name first and missing fields in the order of the
record.
-/

namespace EventOutbox

/-! ## §1 Faults -/

/-- The reasons why a JSON value does not have a shape. -/
inductive DecodeError where
  /-- A value of another kind. -/
  | kind (found : Json) (expected : String)
  /-- An integer that does not fit. -/
  | range (found : Int) (expected : String)
  /-- A text that is no identifier. -/
  | uuid (problem : Uuid.Problem)
  /-- A text that is no instant. -/
  | instant (problem : Instant.Problem)
  /-- A field that is left out. -/
  | missing (field : String)
  /-- An array with fewer items than the record has fields. -/
  | tooFew (found : Nat) (record : String) (fields : Nat)
  /-- An array with more items than the record has fields. -/
  | tooMany (found : Nat)
deriving DecidableEq

/-- A JSON value as the messages describe it. -/
def Json.describe : Json → String
  | .null => "null"
  | .bool true => "boolean `true`"
  | .bool false => "boolean `false`"
  | .integer n => s!"integer `{n}`"
  | .real x => s!"floating point `{x.text}`"
  | .text s => s!"string {Text.quote s}"
  | .array _ => "sequence"
  | .object _ => "map"

/-- The wording of a fault. -/
def DecodeError.message : DecodeError → String
  | .kind found expected => s!"invalid type: {found.describe}, expected {expected}"
  | .range found expected => s!"invalid value: integer `{found}`, expected {expected}"
  | .uuid problem => s!"UUID parsing failed: {problem.message}"
  | .instant problem => problem.message
  | .missing field => s!"missing field `{field}`"
  | .tooFew found record fields =>
    let elements := if fields = 1 then "1 element" else s!"{fields} elements"
    s!"invalid length {found}, expected struct {record} with {elements}"
  | .tooMany found => s!"invalid length {found}, expected fewer elements in array"

/-- A fault among the fields of an object. -/
inductive FieldFault where
  | refused (name : String) (error : DecodeError)
  | missing (name : String)

/-- Which of two faults is reported, when the first stands before the second in the record. -/
def FieldFault.prefer : FieldFault → FieldFault → FieldFault
  | .refused a e, .refused b f => if b < a then .refused b f else .refused a e
  | .missing _, .refused b f => .refused b f
  | fault, .missing _ => fault

/-- The fault of a record with a fault among its fields. -/
def FieldFault.error : FieldFault → DecodeError
  | .refused _ e => e
  | .missing name => .missing name

/-! ## §2 Readers -/

/-- Read an integer between two bounds. -/
def decodeInteger (expected : String) (least most : Int) : Json → Except DecodeError Int
  | .integer n => if least ≤ n ∧ n ≤ most then .ok n else .error (.range n expected)
  | j => .error (.kind j expected)

/-- Read the items of an array one after the other. -/
def decodeItems {α : Type} (decode : Json → Except DecodeError α) :
    List Json → Except DecodeError (List α)
  | [] => .ok []
  | j :: js =>
    match decode j with
    | .error e => .error e
    | .ok v =>
      match decodeItems decode js with
      | .error e => .error e
      | .ok vs => .ok (v :: vs)

/-- The value of a shape that a required field has when it is left out. -/
def Shape.absent? : (s : Shape) → Option s.Val
  | .option _ => some none
  | _ => none

mutual

/-- Read a value of a shape. -/
def Shape.decode : (s : Shape) → Json → Except DecodeError s.Val
  | .uuid, j =>
    match j with
    | .text t => (Uuid.ofText t).mapError .uuid
    | _ => .error (.kind j "a formatted UUID string")
  | .instant, j =>
    match j with
    | .text t => (Instant.ofText t).mapError .instant
    | _ => .error (.kind j "an RFC 3339 formatted date and time string")
  | .bool, j =>
    match j with
    | .bool b => .ok b
    | _ => .error (.kind j "a boolean")
  | .text, j =>
    match j with
    | .text t => .ok t
    | _ => .error (.kind j "a string")
  | .u32, j => (decodeInteger "u32" 0 4294967295 j).map fun n => UInt32.ofNat n.toNat
  | .u64, j => (decodeInteger "u64" 0 18446744073709551615 j).map fun n => UInt64.ofNat n.toNat
  | .i64, j =>
    (decodeInteger "i64" (-9223372036854775808) 9223372036854775807 j).map Int64.ofInt
  | .any, j => .ok j
  | .option s, j =>
    match j with
    | .null => .ok none
    | _ => (s.decode j).map some
  | .list s, j =>
    match j with
    | .array items => decodeItems s.decode items
    | _ => .error (.kind j "a sequence")
  | .record name fs, j =>
    match j with
    | .object entries => (fs.decodeEntries (Json.find? entries)).mapError FieldFault.error
    | .array items =>
      match fs.decodeArray name fs.count 0 items with
      | .error e => .error e
      | .ok (v, []) => .ok v
      | .ok (_, _ :: _) => .error (.tooMany items.length)
    | _ => .error (.kind j ("struct " ++ name))

/-- Read the fields of a record from an object, given by its look-up function. -/
def Fields.decodeEntries : (fs : Fields) → (String → Option Json) → Except FieldFault fs.Val
  | .nil, _ => .ok ()
  | .cons name .required s rest, find =>
    let head := match find name with
      | some j => (s.decode j).mapError (FieldFault.refused name)
      | none =>
        match s.absent? with
        | some v => .ok v
        | none => .error (.missing name)
    match head, rest.decodeEntries find with
    | .ok v, .ok vs => .ok (v, vs)
    | .error e, .ok _ => .error e
    | .ok _, .error f => .error f
    | .error e, .error f => .error (e.prefer f)
  | .cons name .defaulted s rest, find =>
    let head := match find name with
      | some j => ((s.decode j).map some).mapError (FieldFault.refused name)
      | none => .ok none
    match head, rest.decodeEntries find with
    | .ok v, .ok vs => .ok (v, vs)
    | .error e, .ok _ => .error e
    | .ok _, .error f => .error f
    | .error e, .error f => .error (e.prefer f)

/-- Read the fields of a record from the items of an array, `done` of which are consumed already. -/
def Fields.decodeArray :
    (fs : Fields) → (record : String) → (total done : Nat) → List Json →
      Except DecodeError (fs.Val × List Json)
  | .nil, _, _, _, items => .ok ((), items)
  | .cons _ .required s rest, record, total, done, items =>
    match items with
    | [] => .error (.tooFew done record total)
    | j :: items =>
      match s.decode j with
      | .error e => .error e
      | .ok v => (rest.decodeArray record total (done + 1) items).map fun (vs, r) => ((v, vs), r)
  | .cons _ .defaulted s rest, record, total, done, items =>
    match items with
    | [] => (rest.decodeArray record total done []).map fun (vs, r) => ((none, vs), r)
    | j :: items =>
      match s.decode j with
      | .error e => .error e
      | .ok v =>
        (rest.decodeArray record total (done + 1) items).map fun (vs, r) => ((some v, vs), r)

end

end EventOutbox
