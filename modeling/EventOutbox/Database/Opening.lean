import EventOutbox.Database.Address
import EventOutbox.Database.Store
import EventOutbox.Settings.Database

/-!
# Opening a database

A pool of connections is opened by reaching the server once.  On request the tables are brought up
to date before the pool is used.
-/

namespace EventOutbox.Database

variable {W : Type}

/-- The address of the database that settings name, with the time after which the server gives a
statement up. -/
def addressOf (s : Settings.Database) : Except Failure Address :=
  match Address.ofText s.url with
  | .error p => .error (failure "Invalid database URL" (.configuration p.message))
  | .ok a =>
    match s.statementTimeout? with
    | some ms => .ok (a.withOption "statement_timeout" (toString ms))
    | none => .ok a

/-- Bring the tables up to date. -/
def migrate (pool : Pool W) : Action W (Except Failure Unit) := do
  match ← pool.sendAlone .migrate with
  | .ok _ => pure (.ok ())
  | .error p =>
    pure (.error (.database "Failed to run migrations" s!"while executing migrations: {p.message}"))

/-- Open the database that settings name. -/
def connect (reach : Address → Action W (Except Problem Unit)) (pool : Pool W)
    (s : Settings.Database) : Action W (Except Failure Unit) := do
  match addressOf s with
  | .error f => pure (.error f)
  | .ok a =>
    match ← reach a with
    | .error p => pure (.error (failure "Failed to connect to database" p))
    | .ok () => if s.runMigrations then migrate pool else pure (.ok ())

end EventOutbox.Database
