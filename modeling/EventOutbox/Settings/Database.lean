import EventOutbox.Json.Decoder
import EventOutbox.Settings.Problem

/-!
# Database settings

Where the database is, how many connections are held, and how long is waited.
-/

namespace EventOutbox.Settings

/-- The settings of the database. -/
structure Database where
  url : String := ""
  maxConnections : UInt32 := 10
  acquireTimeoutMs : UInt64 := 5000
  statementTimeoutMs : UInt64 := 30000
  runMigrations : Bool := false
deriving DecidableEq, Repr

namespace Database

/-! ## §1 Reading -/

/-- The fields of the settings. -/
def fields : Fields :=
  .cons "url" .required .text <|
    .cons "max_connections" .defaulted .u32 <|
      .cons "acquire_timeout_ms" .defaulted .u64 <|
        .cons "statement_timeout_ms" .defaulted .u64 <|
          .cons "run_migrations" .defaulted .bool .nil

/-- The shape of the settings. -/
def shape : Shape := .record "DatabaseConfig" fields

/-- The settings with the given fields; a field left out has its standard value. -/
def ofVal : fields.Val → Database
  | (url, maxConnections, acquireTimeoutMs, statementTimeoutMs, runMigrations, ()) =>
    { url
      maxConnections := Option.getD maxConnections 10
      acquireTimeoutMs := Option.getD acquireTimeoutMs 5000
      statementTimeoutMs := Option.getD statementTimeoutMs 30000
      runMigrations := Option.getD runMigrations false }

/-- Read the settings from their JSON form. -/
def ofJson (j : Json) : Except DecodeError Database :=
  (shape.decode j).map ofVal

/-! ## §2 Use -/

/-- The least number of connections. -/
def minConnections : UInt32 := 2

/-- The greatest number of connections. -/
def mostConnections : UInt32 := 100

/-- The milliseconds after which the server gives a statement up, unless it never does. -/
def statementTimeout? (d : Database) : Option UInt64 :=
  if d.statementTimeoutMs = 0 then none else some d.statementTimeoutMs

/-- The first thing that is wrong with the settings, if anything is. -/
def problem? (d : Database) : Option Problem :=
  if d.url = "" then some (.missing "OUTBOX_RELAY__DATABASE__URL")
  else if !d.url.startsWith "postgres://" && !d.url.startsWith "postgresql://" then
    some .databaseUrl
  else if d.maxConnections < minConnections then some .poolTooSmall
  else if mostConnections < d.maxConnections then some .poolTooLarge
  else if d.acquireTimeoutMs = 0 then some .acquireTimeout
  else none

end Database

end EventOutbox.Settings
