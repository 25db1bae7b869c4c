import EventOutbox.Delivery.Dispatcher
import EventOutbox.Settings.App
import EventOutbox.Store.Memory
import EventOutbox.UnitOfWork.Basic

/-!
# Reports

Failures, accounts and settings as JSON objects, in the form in which they are reported to other
programs.
-/

namespace EventOutbox.Report

/-! ## §1 Failures -/

/-- An object with the given entries. -/
def obj (entries : List (String × Json)) : Json := .object entries

/-- A natural number. -/
def nat (n : Nat) : Json := .integer n

/-- An identifier. -/
def uuid (u : Uuid) : Json := .text u.text

/-- A failure of a given kind. -/
def fault (kind message : String) : Json :=
  obj [("error", .text kind), ("message", .text message)]

/-- A failure: its code, its message, and its details if it has any. -/
def failure (f : Failure) : Json :=
  let base := [("error", Json.text f.code.text), ("message", Json.text f.message)]
  if f.details.isEmpty then obj base
  else obj (base ++ [("details", obj (f.details.map fun (k, v) => (k, Json.text v)))])

/-- A failure with its text. -/
def failureWithText (f : Failure) : Json :=
  obj [("display", .text f.text), ("value", failure f)]

/-- A JSON value that does not have the shape asked for. -/
def decodeError (e : DecodeError) : Json := fault "Json" e.message

/-- A refusal of a store. -/
def storeError (e : StoreError) : Json :=
  let kind := match e with
    | .concurrency _ _ _ => "Concurrency"
    | .database _ => "Database"
    | .storage _ => "Internal"
  fault kind e.message

/-- An error of a commit. -/
def commitError (e : CommitError) : Json :=
  obj [("error", .text e.code), ("message", .text e.message), ("retryable", .bool e.isRetryable),
    ("domain", .text e.failure.text)]

/-- A refusal of a registry. -/
def registryError (e : RegistryError) : Json :=
  let kind := match e with
    | .unknown _ => "UnknownEventType"
    | .malformed _ _ => "Malformed"
  obj [("error", .text kind), ("message", .text e.message), ("domain", .text e.failure.text)]

/-! ## §2 Values -/

/-- An actor. -/
def actor (a : Actor) : Json :=
  obj [("name", .text a.name), ("authenticated", .bool a.authenticated),
    ("audit_name", .text (Actor.auditName (some a))), ("json", a.toJson)]

/-- An entity. -/
def entity {κ : Type} [EventCatalog κ] (e : Entity κ) : Json :=
  obj [("version", nat e.version.toNat), ("audit", Json.ofOption Audit.toJson e.audit),
    ("pending", .array (e.buffer.pending.map fun ev => uuid ev.id))]

/-- The version and the state of an entity row. -/
def entityRow (r : EntityRow) : Json :=
  obj [("version", nat r.version.toNat), ("state", r.state)]

/-! ## §3 Accounts -/

/-- What a store wrote. -/
def receipt (r : Receipt) : Json :=
  obj [("entities_written", nat r.entitiesWritten), ("messages_written", nat r.messagesWritten)]

/-- The account of a commit. -/
def commitSummary (s : CommitSummary) : Json :=
  obj [("transaction_id", uuid s.transactionId), ("entities_written", nat s.entitiesWritten),
    ("messages_written", nat s.messagesWritten)]

/-- The account of a cycle. -/
def dispatch (r : DispatchReport) : Json :=
  obj [("fetched", nat r.fetched), ("published", nat r.published), ("failed", nat r.failed),
    ("skipped", nat r.skipped), ("cancelled", nat r.cancelled),
    ("still_pending", nat r.stillPending)]

/-- The name of a phase. -/
def phase : Phase → Json
  | .idle => .text "Idle"
  | .polling => .text "Polling"
  | .batchFetched => .text "BatchFetched"
  | .publishing => .text "Publishing"
  | .batchComplete => .text "BatchComplete"

/-- What a ledger answered. -/
def ledgerAnswer : LedgerAnswer → Json
  | .inserted => .text "Inserted"
  | .alreadyRecorded => .text "AlreadyRecorded"

/-! ## §4 Settings -/

/-- The kind of a problem with settings. -/
def problemKind : Settings.Problem → String
  | .missing _ => "MissingRequired"
  | .databaseUrl => "InvalidDatabaseUrl"
  | .streamUrl => "InvalidRedisUrl"
  | .poolTooSmall => "PoolTooSmall"
  | .poolTooLarge => "PoolSizeTooLarge"
  | .acquireTimeout => "InvalidAcquireTimeout"
  | .batchSize => "InvalidBatchSize"
  | .pollInterval => "InvalidPollInterval"
  | .maxAttempts => "InvalidMaxAttempts"
  | .logFilter _ | .logFilterFault => "InvalidLogFilter"

/-- Whether settings are valid. -/
def validity : Option Settings.Problem → Json
  | none => .text "ok"
  | some p => fault (problemKind p) p.message

/-- A limit of attempts. -/
def limit (m : Option UInt32) : Json := Json.ofOption (fun n => nat n.toNat) m

/-- Database settings. -/
def database (d : Settings.Database) : Json :=
  obj [("url", .text d.url), ("max_connections", nat d.maxConnections.toNat),
    ("acquire_timeout_ms", nat d.acquireTimeoutMs.toNat),
    ("statement_timeout_ms", Json.ofOption (fun n => nat n.toNat) d.statementTimeout?),
    ("run_migrations", .bool d.runMigrations), ("valid", validity d.problem?)]

/-- Dispatcher settings. -/
def dispatcher (d : Settings.Dispatcher) : Json :=
  obj [("batch_size", nat d.batchSize.toNat), ("poll_interval_ms", nat d.pollIntervalMs.toNat),
    ("max_attempts", limit d.maxAttempts), ("default", .bool (d = {})),
    ("valid", validity d.problem?)]

/-- Stream settings. -/
def stream (s : Settings.Stream) : Json :=
  obj [("url", .text s.url), ("stream_prefix", .text s.streamPrefix),
    ("consumer_groups", .text s.consumerGroups), ("groups", .array (s.groupNames.map .text)),
    ("timeout_secs", nat s.timeoutSecs.toNat), ("enabled", .bool s.isEnabled),
    ("default", .bool (s = {})), ("valid", validity s.problem?)]

/-- Telemetry settings. -/
def telemetry (t : Settings.Telemetry) : Json :=
  obj [("log_level", .text t.logLevel), ("json", .bool t.json), ("default", .bool (t = {})),
    ("valid", validity t.problem?)]

/-- All settings. -/
def app (a : Settings.App) : Json :=
  obj [("database", database a.database), ("dispatcher", dispatcher a.dispatcher),
    ("redis", stream a.stream), ("telemetry", telemetry a.telemetry),
    ("valid", validity a.problem?)]

/-- The configuration of a dispatcher. -/
def dispatcherConfig (c : DispatcherConfig) : Json :=
  let valid := match c.problem? with
    | none => .text "ok"
    | some p => failure p.failure
  obj [("batch_size", nat c.batchSize.toNat), ("poll_interval_ms", nat c.pollInterval.toMillis),
    ("max_attempts", limit c.maxAttempts), ("default", .bool (c = {})), ("valid", valid)]

end EventOutbox.Report
