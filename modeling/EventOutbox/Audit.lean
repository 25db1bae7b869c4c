import EventOutbox.Json.Decoder
import EventOutbox.Json.Encoder

/-!
# Audit fields

Who created an entity and who changed it last, and when.  A creation counts as the first change.
-/

namespace EventOutbox

/-- The audit fields of an entity; a field that was never stamped is absent. -/
structure Audit where
  createdBy : Option String := none
  createdAt : Option Instant := none
  modifiedBy : Option String := none
  modifiedAt : Option Instant := none
deriving DecidableEq

namespace Audit

/-! ## §1 Stamps -/

/-- Stamp a creation. -/
def stampCreated (_ : Audit) (at_ : Instant) (by_ : String) : Audit :=
  { createdBy := some by_, createdAt := some at_, modifiedBy := some by_, modifiedAt := some at_ }

/-- Stamp a change. -/
def stampModified (a : Audit) (at_ : Instant) (by_ : String) : Audit :=
  { a with modifiedBy := some by_, modifiedAt := some at_ }

/-! ## §2 The JSON form -/

/-- The fields of the JSON form. -/
def fields : Fields :=
  .cons "created_by" .required (.option .text) <|
    .cons "created_at" .required (.option .instant) <|
      .cons "modified_by" .required (.option .text) <|
        .cons "modified_at" .required (.option .instant) .nil

/-- The shape of the JSON form. -/
def shape : Shape := .record "AuditInfo" fields

/-- The audit fields with the given values. -/
def ofVal : fields.Val → Audit
  | (createdBy, createdAt, modifiedBy, modifiedAt, ()) =>
    { createdBy, createdAt, modifiedBy, modifiedAt }

/-- The values of audit fields. -/
def toVal (a : Audit) : fields.Val :=
  (a.createdBy, a.createdAt, a.modifiedBy, a.modifiedAt, ())

/-- Read audit fields from their JSON form. -/
def ofJson (j : Json) : Except DecodeError Audit :=
  (shape.decode j).map ofVal

/-- The JSON form of audit fields. -/
def toJson (a : Audit) : Json :=
  shape.encode a.toVal

end Audit

end EventOutbox
