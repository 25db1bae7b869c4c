import EventOutbox.Action
import EventOutbox.Database.Statement

/-!
# Connections to a database

What a database server is asked and what it answers, and transactions.  A transaction that is
neither committed nor rolled back when it is left is dropped: the server is told to roll back, and
its answer does not matter.
-/

namespace EventOutbox.Database

/-! ## §1 Problems -/

/-- Why a request to a database fails. -/
inductive Problem where
  /-- The server refuses, with a code of five characters. -/
  | server (code message : String)
  | transport (reason : String)
  | encryption (reason : String)
  | unexpectedData (reason : String)
  | poolTimedOut
  | poolClosed
  | workerCrashed
  | configuration (reason : String)
  | noRow
  | noColumn (name : String)
  | column (index reason : String)
deriving DecidableEq, Repr

/-- The wording of a problem. -/
def Problem.message : Problem → String
  | .server _ message => s!"error returned from database: {message}"
  | .transport reason => s!"error communicating with database: {reason}"
  | .encryption reason =>
    s!"error occurred while attempting to establish a TLS connection: {reason}"
  | .unexpectedData reason => s!"encountered unexpected or invalid data: {reason}"
  | .poolTimedOut => "pool timed out while waiting for an open connection"
  | .poolClosed => "attempted to acquire a connection on a closed pool"
  | .workerCrashed => "attempted to communicate with a crashed background worker"
  | .configuration reason => s!"error with configuration: {reason}"
  | .noRow => "no rows returned by a query that expected to return at least one row"
  | .noColumn name => s!"no column found for name: {name}"
  | .column index reason => s!"error occurred while decoding column {index}: {reason}"

/-! ## §2 Requests -/

/-- The columns of a row with their names, in their order. -/
abbrev Row : Type := List (String × Value)

/-- What a server is asked. -/
inductive Request where
  | beginning
  | statement (s : Statement)
  | commit
  | rollback
  /-- Bring the tables up to date. -/
  | migrate
deriving DecidableEq

/-- What a server answers: the number of rows that were written, and the rows that were read. -/
structure Reply where
  affected : Nat := 0
  rows : List Row := []
deriving DecidableEq

/-- Access to a database through a pool of connections. -/
structure Pool (W : Type) where
  /-- Take a connection out of the pool. -/
  acquire : Action W (Except Problem Unit)
  /-- Send a request over the connection and wait for the reply. -/
  send : Request → Action W (Except Problem Reply)

namespace Pool

variable {W α ε : Type}

/-- Send a request over a connection of its own. -/
def sendAlone (pool : Pool W) (r : Request) : Action W (Except Problem Reply) := do
  match ← pool.acquire with
  | .error p => pure (.error p)
  | .ok () => pool.send r

/-- Execute a statement over a connection of its own. -/
def execute (pool : Pool W) (s : Statement) : Action W (Except Problem Reply) :=
  pool.sendAlone (.statement s)

/-! ## §3 Transactions -/

/-- How work in a transaction ends that does not fail. -/
inductive Ending where
  | keep
  | discard
deriving DecidableEq, Repr

/-- Leave a transaction that is open. -/
def drop (pool : Pool W) : Action W Unit := do
  let _ ← pool.send .rollback
  pure ()

/-- End a transaction by a request that is reported under a name when it fails. -/
def finish (pool : Pool W) (r : Request) (report : Problem → ε) (x : α) :
    Action W (Except ε α) := do
  match ← pool.send r with
  | .ok _ => pure (.ok x)
  | .error p =>
    pool.drop
    pure (.error (report p))

/-- Do work in a transaction.  What the work wrote is kept only if it says so and the server
agrees.  -/
def transaction (pool : Pool W) (report : (context : String) → Problem → ε)
    (work : Action W (Except ε (Ending × α))) : Action W (Except ε α) := do
  match ← pool.acquire with
  | .error p => pure (.error (report "Failed to begin transaction" p))
  | .ok () =>
    match ← pool.send .beginning with
    | .error p =>
      pool.drop
      pure (.error (report "Failed to begin transaction" p))
    | .ok _ =>
      match ← work with
      | .error e =>
        pool.drop
        pure (.error e)
      | .ok (.keep, x) => pool.finish .commit (report "Failed to commit transaction") x
      | .ok (.discard, x) => pool.finish .rollback (report "Failed to roll back transaction") x

end Pool

/-- The pool that is closed. -/
def closedPool {W : Type} : Pool W where
  acquire := pure (.error .poolClosed)
  send _ := pure (.error .poolClosed)

end EventOutbox.Database
