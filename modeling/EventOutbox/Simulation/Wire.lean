import EventOutbox.Database.Pool
import EventOutbox.Stream.Protocol

/-!
# Scripted servers

A connection whose other side answers from a script, and with standard replies when the script is
used up.  What was sent is kept, so that a run can be judged by it.
-/

namespace EventOutbox.Simulation

/-! ## §1 Connections -/

/-- A connection to a scripted server. -/
structure Wire (Command Reply : Type) where
  /-- The replies to come. -/
  script : List Reply := []
  /-- What was sent, in order. -/
  sent : List Command := []

/-- Send a command and get the next reply. -/
def Wire.exchange {Command Reply : Type} (standard : Command → Reply) (c : Command) :
    Action (Wire Command Reply) Reply :=
  .step fun w =>
    match w.script with
    | [] => (standard c, { w with sent := w.sent ++ [c] })
    | r :: rs => (r, { script := rs, sent := w.sent ++ [c] })

/-! ## §2 Stream servers -/

/-- A connection to a scripted stream server, and the streams that are declared on it. -/
structure StreamLink where
  wire : Wire Stream.Command Stream.Reply
  declared : List String := []

namespace StreamLink

/-- The connection as a part of the link. -/
def wireCell : Cell StreamLink (Wire Stream.Command Stream.Reply) where
  get l := l.wire
  set x l := { l with wire := x }
  get_set _ _ := rfl
  set_get _ := rfl
  set_set _ _ _ := rfl

/-- The declared streams as a part of the link. -/
def declaredCell : Cell StreamLink (List String) where
  get l := l.declared
  set x l := { l with declared := x }
  get_set _ _ := rfl
  set_get _ := rfl
  set_set _ _ _ := rfl

/-- What a server answers that does as it is told. -/
def standardReply : Stream.Command → Stream.Reply
  | .append _ _ => .bulk "1-1"
  | _ => .simple "OK"

/-- The link as a connection. -/
def channel : Stream.Channel StreamLink where
  send c := wireCell.focus (Wire.exchange standardReply c)

end StreamLink

/-! ## §3 Database servers -/

/-- A connection to a scripted database server. -/
abbrev DatabaseLink : Type :=
  Wire Database.Request (Except Database.Problem Database.Reply)

/-- The link as a pool; a server that does as it is told writes one row for each statement. -/
def DatabaseLink.pool : Database.Pool DatabaseLink where
  acquire := pure (.ok ())
  send := Wire.exchange fun _ => .ok { affected := 1 }

end EventOutbox.Simulation
