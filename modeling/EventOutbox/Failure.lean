/-!
# Failures

What a handler, a store or a publisher reports when it fails: one code out of a fixed set, a
message, and details under names.
-/

namespace EventOutbox

/-! ## §1 Codes -/

/-- The kinds of failure. -/
inductive FailureCode where
  | validationFailed
  | messageNotFound
  | unknownEventType
  | serializationError
  | handlerFailed
  | publishFailed
  | concurrencyConflict
  | databaseError
  | cancelled
  | internalError
deriving DecidableEq, Repr

/-- The spelling of a code. -/
def FailureCode.text : FailureCode → String
  | .validationFailed => "VALIDATION_FAILED"
  | .messageNotFound => "MESSAGE_NOT_FOUND"
  | .unknownEventType => "UNKNOWN_EVENT_TYPE"
  | .serializationError => "SERIALIZATION_ERROR"
  | .handlerFailed => "HANDLER_FAILED"
  | .publishFailed => "PUBLISH_FAILED"
  | .concurrencyConflict => "CONCURRENCY_CONFLICT"
  | .databaseError => "DATABASE_ERROR"
  | .cancelled => "CANCELLED"
  | .internalError => "INTERNAL_ERROR"

/-! ## §2 Failures -/

/-- A failure with its code, its message and its details, one value under each name. -/
structure Failure where
  code : FailureCode
  message : String
  details : List (String × String)
deriving DecidableEq, Repr

namespace Failure

/-- A failure without details. -/
def plain (code : FailureCode) (message : String) : Failure :=
  ⟨code, message, []⟩

/-- A failure of the database while something was being done. -/
def database (context cause : String) : Failure :=
  plain .databaseError s!"{context}: {cause}"

/-- Set the detail under a name. -/
def withDetail (f : Failure) (name value : String) : Failure :=
  { f with details := f.details.filter (fun d => d.1 != name) ++ [(name, value)] }

/-- The text in which a failure is recorded and reported by others. -/
def text (f : Failure) : String :=
  s!"[{f.code.text}] {f.message}"

end Failure

/-! ## §3 Refused fields -/

/-- Why the value of a field is refused. -/
inductive FieldProblem where
  | empty (field : String)
deriving DecidableEq, Repr

/-- The wording of a refused field. -/
def FieldProblem.message : FieldProblem → String
  | .empty field => s!"Field '{field}' cannot be empty"

/-- A refused field as a failure. -/
def FieldProblem.failure (p : FieldProblem) : Failure :=
  .plain .validationFailed p.message

end EventOutbox
