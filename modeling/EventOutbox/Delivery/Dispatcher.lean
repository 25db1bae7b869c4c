import EventOutbox.Event.Registry
import EventOutbox.Outbox.Access
import EventOutbox.Span

/-!
# The dispatcher

A dispatcher takes a batch of pending rows from the outbox, reads each back into an event, publishes
it, and marks the row processed.  A row that cannot be read, published or marked gets a failed
attempt instead, and the batch goes on.  Before each row the dispatcher looks whether it is asked to
stop.
-/

namespace EventOutbox

/-! ## §1 Configuration -/

/-- The configuration of a dispatcher. -/
structure DispatcherConfig where
  /-- The time between two cycles of the polling loop. -/
  pollInterval : Span := .ofMillis 1000
  /-- The most rows of a batch. -/
  batchSize : UInt32 := 20
  /-- The number of failed attempts after which a row is left alone. -/
  maxAttempts : Option UInt32 := none
deriving DecidableEq, Repr

/-- Why a configuration is refused. -/
inductive DispatcherConfigProblem where
  | pollInterval
  | batchSize
  | maxAttempts
deriving DecidableEq, Repr

/-- The wording of a refused configuration. -/
def DispatcherConfigProblem.message : DispatcherConfigProblem → String
  | .pollInterval => "poll_interval must be greater than zero"
  | .batchSize => "batch_size must be greater than zero"
  | .maxAttempts => "max_attempts must be greater than zero"

/-- What is wrong with a configuration, if anything is. -/
def DispatcherConfig.problem? (c : DispatcherConfig) : Option DispatcherConfigProblem :=
  if c.pollInterval.isZero then some .pollInterval
  else if c.batchSize = 0 then some .batchSize
  else if c.maxAttempts = some 0 then some .maxAttempts
  else none

/-- A refused configuration as a failure. -/
def DispatcherConfigProblem.failure (p : DispatcherConfigProblem) : Failure :=
  .plain .validationFailed p.message

/-! ## §2 Phases and reports -/

/-- What a dispatcher is doing. -/
inductive Phase where
  | idle
  | polling
  | batchFetched
  | publishing
  | batchComplete
deriving DecidableEq, Repr

/-- The account of one cycle. -/
structure DispatchReport where
  fetched : Nat := 0
  published : Nat := 0
  failed : Nat := 0
  skipped : Nat := 0
  cancelled : Nat := 0
deriving DecidableEq, Repr

/-- The number of rows of the batch that stay pending. -/
def DispatchReport.stillPending (r : DispatchReport) : Nat :=
  r.failed + r.skipped + r.cancelled

/-- What became of a row. -/
inductive RowOutcome where
  | published
  | failed
  | skipped
deriving DecidableEq, Repr

/-- Count a row. -/
def DispatchReport.count (r : DispatchReport) : RowOutcome → DispatchReport
  | .published => { r with published := r.published + 1 }
  | .failed => { r with failed := r.failed + 1 }
  | .skipped => { r with skipped := r.skipped + 1 }

/-! ## §3 The dispatcher -/

/-- A dispatcher with everything that it works on. -/
structure Dispatcher (W κ : Type) [EventCatalog κ] where
  outbox : OutboxAccess W
  registry : Registry κ
  publish : Event κ → Action W (Except Failure Unit)
  config : DispatcherConfig
  /-- Show what the dispatcher is doing. -/
  setPhase : Phase → Action W Unit
  /-- Whether the dispatcher is asked to stop. -/
  cancelled : W → Bool
  /-- The time that processed rows get. -/
  clock : W → Instant

namespace Dispatcher

variable {W κ : Type} [EventCatalog κ]

/-- Count a failed attempt of a row; a store that cannot is not reported. -/
def recordFailure (d : Dispatcher W κ) (m : Message) (f : Failure) (outcome : RowOutcome) :
    Action W RowOutcome := do
  let _ ← d.outbox.recordFailure m.id f.text
  pure outcome

/-- Deliver one row. -/
def dispatchRow (d : Dispatcher W κ) (m : Message) : Action W RowOutcome := do
  match d.registry.decode m.eventType m.payload with
  | .error e => d.recordFailure m e.failure .skipped
  | .ok event =>
    match ← d.publish event with
    | .error f => d.recordFailure m f .failed
    | .ok () =>
      let now ← Action.ask d.clock
      match ← d.outbox.markProcessed m.id now with
      | .error f => d.recordFailure m f .failed
      | .ok () => pure .published

/-- Deliver rows one after the other until the dispatcher is asked to stop. -/
def dispatchRows (d : Dispatcher W κ) (r : DispatchReport) : List Message → Action W DispatchReport
  | [] => pure r
  | m :: ms => do
    if ← Action.ask d.cancelled then pure { r with cancelled := ms.length + 1 }
    else
      let outcome ← d.dispatchRow m
      d.dispatchRows (r.count outcome) ms

/-- Deliver a batch that is not empty. -/
def dispatchBatch (d : Dispatcher W κ) (batch : List Message) : Action W DispatchReport := do
  d.setPhase .batchFetched
  d.setPhase .publishing
  let report ← d.dispatchRows { fetched := batch.length } batch
  d.setPhase .batchComplete
  d.setPhase .idle
  pure report

/-- One cycle: fetch a batch and deliver it. -/
def dispatchOnce (d : Dispatcher W κ) : Action W (Except Failure DispatchReport) := do
  match d.config.problem? with
  | some p => pure (.error p.failure)
  | none =>
    d.setPhase .polling
    match ← d.outbox.fetch d.config.batchSize d.config.maxAttempts with
    | .error f =>
      d.setPhase .idle
      pure (.error f)
    | .ok [] =>
      d.setPhase .idle
      pure (.ok {})
    | .ok (m :: ms) =>
      let report ← d.dispatchBatch (m :: ms)
      pure (.ok report)

end Dispatcher

end EventOutbox
