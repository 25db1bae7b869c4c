import EventOutbox.Delivery.Dispatcher
import EventOutbox.Json.Decoder
import EventOutbox.Settings.Problem

/-!
# Dispatcher settings

The size of a batch, the time between cycles, and the limit of attempts.
-/

namespace EventOutbox.Settings

/-- The settings of a dispatcher. -/
structure Dispatcher where
  batchSize : UInt32 := 20
  pollIntervalMs : UInt64 := 1000
  maxAttempts : Option UInt32 := none
deriving DecidableEq, Repr

namespace Dispatcher

/-! ## §1 Reading -/

/-- The fields of the settings. -/
def fields : Fields :=
  .cons "batch_size" .defaulted .u32 <|
    .cons "poll_interval_ms" .defaulted .u64 <|
      .cons "max_attempts" .defaulted (.option .u32) .nil

/-- The shape of the settings. -/
def shape : Shape := .record "DispatcherConfig" fields

/-- The settings with the given fields; a field left out has its standard value. -/
def ofVal : fields.Val → Dispatcher
  | (batchSize, pollIntervalMs, maxAttempts, ()) =>
    { batchSize := Option.getD batchSize 20
      pollIntervalMs := Option.getD pollIntervalMs 1000
      maxAttempts := Option.join maxAttempts }

/-- Read the settings from their JSON form. -/
def ofJson (j : Json) : Except DecodeError Dispatcher :=
  (shape.decode j).map ofVal

/-! ## §2 Use -/

/-- The greatest size of a batch. -/
def mostRows : UInt32 := 1000

/-- The first thing that is wrong with the settings, if anything is. -/
def problem? (d : Dispatcher) : Option Problem :=
  if d.batchSize = 0 ∨ mostRows < d.batchSize then some .batchSize
  else if d.pollIntervalMs = 0 then some .pollInterval
  else if d.maxAttempts = some 0 then some .maxAttempts
  else none

/-- The configuration of a dispatcher with these settings. -/
def toConfig (d : Dispatcher) : DispatcherConfig where
  pollInterval := .ofMillis d.pollIntervalMs
  batchSize := d.batchSize
  maxAttempts := d.maxAttempts

end Dispatcher

end EventOutbox.Settings
