import EventOutbox.Json.Decoder
import EventOutbox.Settings.Problem
import EventOutbox.Text.Blank

/-!
# Stream settings

Where the stream server is, how streams are named, and which consumer groups are declared on them.
The groups are listed with commas between them; blank entries do not count.
-/

namespace EventOutbox.Settings

/-- The settings of the stream server, which is not used while its address is empty. -/
structure Stream where
  url : String := ""
  streamPrefix : String := "outbox"
  consumerGroups : String := ""
  timeoutSecs : UInt64 := 5
deriving DecidableEq, Repr

namespace Stream

/-! ## §1 Reading -/

/-- The fields of the settings. -/
def fields : Fields :=
  .cons "url" .defaulted .text <|
    .cons "stream_prefix" .defaulted .text <|
      .cons "consumer_groups" .defaulted .text <|
        .cons "timeout_secs" .defaulted .u64 .nil

/-- The shape of the settings. -/
def shape : Shape := .record "RedisConfig" fields

/-- The settings with the given fields; a field left out has its standard value. -/
def ofVal : fields.Val → Stream
  | (url, streamPrefix, consumerGroups, timeoutSecs, ()) =>
    { url := Option.getD url ""
      streamPrefix := Option.getD streamPrefix "outbox"
      consumerGroups := Option.getD consumerGroups ""
      timeoutSecs := Option.getD timeoutSecs 5 }

/-- Read the settings from their JSON form. -/
def ofJson (j : Json) : Except DecodeError Stream :=
  (shape.decode j).map ofVal

/-! ## §2 Use -/

/-- Whether the stream server is used. -/
def isEnabled (s : Stream) : Bool :=
  s.url != ""

/-- The names in a list with commas: trimmed, without blank entries, in order. -/
def groupsOf (list : String) : List String :=
  (((Text.pieces ',' list.toList).map Text.trimChars).filter fun g => !g.isEmpty).map String.ofList

/-- The names of the consumer groups. -/
def groupNames (s : Stream) : List String :=
  groupsOf s.consumerGroups

/-- The first thing that is wrong with the settings, if anything is. -/
def problem? (s : Stream) : Option Problem :=
  if !s.isEnabled then none
  else if !s.url.startsWith "redis://" && !s.url.startsWith "rediss://" then some .streamUrl
  else if Text.isBlank s.streamPrefix then some (.missing "OUTBOX_RELAY__REDIS__STREAM_PREFIX")
  else none

end Stream

end EventOutbox.Settings
