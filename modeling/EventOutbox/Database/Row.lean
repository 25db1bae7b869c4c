import EventOutbox.Database.Pool
import EventOutbox.Text.Quoted

/-!
# Outbox rows from a database

An outbox row is read from the columns of a row, by their names.  The first column that is missing
or has another type than expected is reported.
-/

namespace EventOutbox.Database

/-! ## §1 Columns -/

/-- A kind of values that a column may have. -/
structure ColumnType (α : Type) where
  name : String
  read : Value → Option α

namespace ColumnType

/-- Identifiers. -/
def uuid : ColumnType Uuid where
  name := "UUID"
  read v := match v with | .uuid u => some u | _ => none

/-- Texts. -/
def text : ColumnType String where
  name := "TEXT"
  read v := match v with | .text s => some s | _ => none

/-- Moments. -/
def instant : ColumnType Instant where
  name := "TIMESTAMPTZ"
  read v := match v with | .instant t => some t | _ => none

/-- JSON values. -/
def json : ColumnType Json where
  name := "JSONB"
  read v := match v with | .json j => some j | _ => none

/-- Numbers of 32 bits. -/
def integer : ColumnType Int where
  name := "INT4"
  read v := match v with | .integer n => some n | _ => none

/-- Truth values. -/
def bool : ColumnType Bool where
  name := "BOOL"
  read v := match v with | .bool b => some b | _ => none

/-- Values that may be missing. -/
def optional {α : Type} (t : ColumnType α) : ColumnType (Option α) where
  name := t.name
  read v := match v with | .null => some none | v => (t.read v).map some

/-- Why a value is not one of a column type. -/
def mismatch {α : Type} (t : ColumnType α) : Value → String
  | .null => "unexpected null; try decoding as an `Option`"
  | v => s!"mismatched types; SQL type `{t.name}` is not compatible with SQL type `{v.typeName}`"

/-- Read the value of the column that is shown as `index`. -/
def decode {α : Type} (t : ColumnType α) (index : String) (v : Value) : Except Problem α :=
  match t.read v with
  | some x => .ok x
  | none => .error (.column index (t.mismatch v))

end ColumnType

/-- Read the column of a name. -/
def column {α : Type} (r : Row) (name : String) (t : ColumnType α) : Except Problem α :=
  match r.lookup name with
  | none => .error (.noColumn name)
  | some v => t.decode (Text.quote name) v

/-! ## §2 Outbox rows -/

/-- The count in a column of signed numbers, which counts as zero when it is negative. -/
def countOf (n : Int) : UInt32 :=
  UInt32.ofNat n.toNat

/-- Read an outbox row. -/
def readMessage (r : Row) : Except Problem Message := do
  let id ← column r "id" .uuid
  let transactionId ← column r "transaction_id" .uuid
  let createdAt ← column r "created_at" .instant
  let processedAt ← column r "processed_at" (.optional .instant)
  let payload ← column r "payload" .json
  let retryCount ← column r "retry_count" .integer
  let eventType ← column r "event_type" .text
  let aggregateType ← column r "aggregate_type" .text
  let aggregateId ← column r "aggregate_id" .text
  let lastError ← column r "last_error" (.optional .text)
  pure { id, eventType, payload, aggregateType, aggregateId, transactionId, createdAt, processedAt,
         retryCount := countOf retryCount, lastError }

/-- Read the truth value that is the first column of the first row. -/
def readTruth : List Row → Except Problem Bool
  | [] => .error .noRow
  | [] :: _ => .error (.column "0" "column index out of bounds: the len is 0, but the index is 0")
  | ((_, v) :: _) :: _ => ColumnType.bool.decode "0" v

end EventOutbox.Database
