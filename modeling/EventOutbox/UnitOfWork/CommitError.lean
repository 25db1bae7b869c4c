import EventOutbox.Failure
import EventOutbox.Store.Change

/-!
# Why a unit of work is not committed

The ways in which a commit fails, their codes and texts, and which of them are worth another try.
-/

namespace EventOutbox

/-- Why a unit of work is not committed. -/
inductive CommitError where
  | concurrency (reason : String)
  | database (reason : String)
  | serialization (reason : String)
  | unexpected (reason : String)
  | cancelled
deriving DecidableEq, Repr

namespace CommitError

/-- The code of an error. -/
def code : CommitError → String
  | .concurrency _ => "DbUpdateConcurrencyError"
  | .database _ => "DatabaseError"
  | .serialization _ => "SerializationError"
  | .unexpected _ => "UnexpectedError"
  | .cancelled => "OperationCancelled"

/-- The wording of an error. -/
def message : CommitError → String
  | .concurrency reason => s!"A concurrency conflict occurred while saving changes: {reason}"
  | .database reason => s!"A database update error occurred: {reason}"
  | .serialization reason => s!"A domain event could not be serialized: {reason}"
  | .unexpected reason => s!"An unexpected error occurred: {reason}"
  | .cancelled => "The commit was cancelled before reaching storage"

/-- Whether the same commit may succeed later. -/
def isRetryable : CommitError → Bool
  | .database _ | .cancelled => true
  | _ => false

/-- A refusal of the store as an error of the commit. -/
def ofStore (e : StoreError) : CommitError :=
  match e with
  | .concurrency _ _ _ => .concurrency e.message
  | .database message => .database message
  | .storage message => .unexpected message

/-- The code of the failure that an error amounts to. -/
def failureCode : CommitError → FailureCode
  | .concurrency _ => .concurrencyConflict
  | .database _ => .databaseError
  | .serialization _ => .serializationError
  | .unexpected _ => .internalError
  | .cancelled => .cancelled

/-- An error as a failure. -/
def failure (e : CommitError) : Failure :=
  .plain e.failureCode e.message

end CommitError

end EventOutbox
