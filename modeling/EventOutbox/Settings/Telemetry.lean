import EventOutbox.Json.Decoder
import EventOutbox.Settings.LogFilter
import EventOutbox.Settings.Problem

/-!
# Telemetry settings

Which log lines are kept and in which form.
-/

namespace EventOutbox.Settings

/-- The settings of the log. -/
structure Telemetry where
  logLevel : String := "info"
  json : Bool := false
deriving DecidableEq, Repr

namespace Telemetry

/-- The fields of the settings. -/
def fields : Fields :=
  .cons "log_level" .defaulted .text <| .cons "json" .defaulted .bool .nil

/-- The shape of the settings. -/
def shape : Shape := .record "TelemetryConfig" fields

/-- The settings with the given fields; a field left out has its standard value. -/
def ofVal : fields.Val → Telemetry
  | (logLevel, json, ()) =>
    { logLevel := Option.getD logLevel "info", json := Option.getD json false }

/-- Read the settings from their JSON form. -/
def ofJson (j : Json) : Except DecodeError Telemetry :=
  (shape.decode j).map ofVal

/-- What is wrong with the settings, if anything is. -/
def problem? (t : Telemetry) : Option Problem :=
  (LogFilter.problem? t.logLevel).map fun
    | .position => .logFilterFault
    | p => .logFilter p.message

/-- Whether the log filter can be checked to its end. -/
def isCheckable (t : Telemetry) : Bool :=
  t.problem? != some .logFilterFault

end Telemetry

end EventOutbox.Settings
