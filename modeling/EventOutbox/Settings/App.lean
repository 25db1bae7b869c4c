import EventOutbox.Settings.Database
import EventOutbox.Settings.Dispatcher
import EventOutbox.Settings.Stream
import EventOutbox.Settings.Telemetry

/-!
# All settings

The settings of an application: one section each for the database, the dispatcher, the stream server
and the log.  Only the database section is required.
-/

namespace EventOutbox.Settings

/-- The settings of an application. -/
structure App where
  database : Database
  dispatcher : Dispatcher := {}
  stream : Stream := {}
  telemetry : Telemetry := {}
deriving DecidableEq, Repr

namespace App

/-- The fields of the settings. -/
def fields : Fields :=
  .cons "database" .required Database.shape <|
    .cons "dispatcher" .defaulted Dispatcher.shape <|
      .cons "redis" .defaulted Stream.shape <|
        .cons "telemetry" .defaulted Telemetry.shape .nil

/-- The shape of the settings. -/
def shape : Shape := .record "AppConfig" fields

/-- The settings with the given sections; a section left out has its standard values. -/
def ofVal : fields.Val → App
  | (database, dispatcher, stream, telemetry, ()) =>
    { database := Database.ofVal database
      dispatcher := (Option.map Dispatcher.ofVal dispatcher).getD {}
      stream := (Option.map Stream.ofVal stream).getD {}
      telemetry := (Option.map Telemetry.ofVal telemetry).getD {} }

/-- Read the settings from their JSON form. -/
def ofJson (j : Json) : Except DecodeError App :=
  (shape.decode j).map ofVal

/-- The first thing that is wrong with the settings, section by section. -/
def problem? (a : App) : Option Problem :=
  a.database.problem?.or <| a.dispatcher.problem?.or <| a.stream.problem?.or a.telemetry.problem?

end App

end EventOutbox.Settings
