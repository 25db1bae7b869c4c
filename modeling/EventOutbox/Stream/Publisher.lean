import EventOutbox.Event.Basic
import EventOutbox.Failure
import EventOutbox.Json.Printer
import EventOutbox.Settings.Stream
import EventOutbox.Stream.Protocol
import EventOutbox.Text.Quoted

/-!
# Publishing to streams

A publisher appends events to streams, one stream for each type of events.  Before the first entry
of a stream the consumer groups are declared on it, in their order; a group that exists already
counts as declared.  A stream is remembered as declared only after all groups were accepted, so a
publish that fails in between leaves the next one to start again with the first group.
-/

namespace EventOutbox.Stream

/-! ## §1 Publishers -/

/-- A publisher of events. -/
structure Publisher where
  streamPrefix : String
  consumerGroups : List String := []
deriving DecidableEq, Repr

namespace Publisher

/-- The publisher that settings describe. -/
def ofSettings (s : Settings.Stream) : Publisher :=
  ⟨s.streamPrefix, s.groupNames⟩

/-- The stream for the events of a type. -/
def streamName (p : Publisher) (eventType : String) : String :=
  s!"{p.streamPrefix}:{eventType}"

/-- A publisher as text. -/
def text (p : Publisher) : String :=
  let groups := ", ".intercalate (p.consumerGroups.map Text.quote)
  "RedisStreamPublisher \x7b stream_prefix: " ++ Text.quote p.streamPrefix ++
    s!", consumer_groups: [{groups}], .. " ++ "\x7d"

/-! ## §2 Declaring streams -/

variable {W : Type}

/-- Whether a reply shows that a group exists now. -/
def groupExists : Reply → Except ReplyProblem Unit
  | .error line =>
    let e := ErrorLine.ofText line
    if e.code = "BUSYGROUP" then .ok () else .error (.signalled e)
  | _ => .ok ()

/-- Why a group could not be declared. -/
def declareFailure (stream group : String) (p : ReplyProblem) : Failure :=
  .plain .publishFailed s!"Failed to declare group {group} on {stream}: {p.message}"

/-- Declare groups on a stream one after the other, up to the first that is refused. -/
def declareGroups (channel : Channel W) (stream : String) :
    List String → Action W (Except Failure Unit)
  | [] => pure (.ok ())
  | group :: groups => do
    let reply ← channel.send (.createGroup stream group)
    match groupExists reply with
    | .error p => pure (.error (declareFailure stream group p))
    | .ok () => declareGroups channel stream groups

/-- Declare the groups on a stream, unless that was done. -/
def ensureDeclared (p : Publisher) (channel : Channel W) (declared : Cell W (List String))
    (stream : String) : Action W (Except Failure Unit) := do
  if (← Action.ask declared.get).contains stream then pure (.ok ())
  else
    match ← declareGroups channel stream p.consumerGroups with
    | .error f => pure (.error f)
    | .ok () =>
      declared.modify (stream :: ·)
      pure (.ok ())

/-! ## §3 Publishing -/

variable {κ : Type} [EventCatalog κ]

/-- The fields of the entry for an event. -/
def entry (e : Event κ) : Except Failure (List (String × String)) :=
  match e.payload with
  | .error reason =>
    .error (.plain .serializationError s!"Failed to serialize {e.eventType}: {reason}")
  | .ok payload =>
    .ok [("event_id", e.id.text), ("event_type", e.eventType),
      ("occurred_at", e.occurredAt.offsetText), ("payload", payload.compact)]

/-- Append an event to its stream.  An event without a JSON form sends nothing. -/
def publish (p : Publisher) (channel : Channel W) (declared : Cell W (List String)) (e : Event κ) :
    Action W (Except Failure Unit) := do
  let stream := p.streamName e.eventType
  match entry e with
  | .error f => pure (.error f)
  | .ok fields =>
    match ← p.ensureDeclared channel declared stream with
    | .error f => pure (.error f)
    | .ok () =>
      let reply ← channel.send (.append stream fields)
      match reply.text with
      | .ok _ => pure (.ok ())
      | .error problem =>
        pure (.error (.plain .publishFailed s!"XADD to {stream} failed: {problem.message}"))

end Publisher

end EventOutbox.Stream
