import EventOutbox.Action

/-!
# Talking to a stream server

The commands that a stream server is sent, its replies, and what an error reply says.  An error
reply is one line, whose first word is a code.
-/

namespace EventOutbox.Stream

/-! ## §1 Commands -/

/-- A command for a stream server. -/
inductive Command where
  /-- Create a group of consumers on a stream, which is created as well if need be. -/
  | createGroup (stream group : String)
  /-- Append an entry of named fields to a stream. -/
  | append (stream : String) (fields : List (String × String))
  /-- Log in. -/
  | logIn (username : Option String) (password : String)
  /-- Choose one of the server's numbered databases. -/
  | choose (database : Int)
deriving DecidableEq, Repr

/-- The words of a command. -/
def Command.words : Command → List String
  | .createGroup stream group => ["XGROUP", "CREATE", stream, group, "0", "MKSTREAM"]
  | .append stream fields =>
    ["XADD", stream, "*"] ++ fields.flatMap fun (name, value) => [name, value]
  | .logIn username password => "AUTH" :: username.toList ++ [password]
  | .choose database => ["SELECT", toString database]

/-! ## §2 Error replies -/

/-- The code of an error reply, and the rest of its line. -/
structure ErrorLine where
  code : String
  detail : Option String
deriving DecidableEq, Repr

namespace ErrorLine

/-- Take an error line apart at its first blank. -/
def ofText (line : String) : ErrorLine :=
  match line.toList.span (· != ' ') with
  | (code, []) => ⟨String.ofList code, none⟩
  | (code, _ :: detail) => ⟨String.ofList code, some (String.ofList detail)⟩

/-- The name of the kind of error that a common code stands for. -/
def kindName? (code : String) : Option String :=
  [("ERR", "ResponseError"), ("EXECABORT", "ExecAbortError"), ("LOADING", "BusyLoadingError"),
    ("NOSCRIPT", "NoScriptError"), ("MOVED", "Moved"), ("ASK", "Ask"), ("TRYAGAIN", "TryAgain"),
    ("CLUSTERDOWN", "ClusterDown"), ("CROSSSLOT", "CrossSlot"), ("MASTERDOWN", "MasterDown"),
    ("READONLY", "ReadOnly"), ("NOTBUSY", "NotBusy")].lookup code

/-- The wording of an error reply. -/
def message (e : ErrorLine) : String :=
  match kindName? e.code, e.detail with
  | some kind, some detail => s!"An error was signalled by the server - {kind}: {detail}"
  | some kind, none => s!"An error was signalled by the server- {kind}"
  | none, some detail => s!"{e.code}: {detail}"
  | none, none => s!"{e.code}: Unknown extension error encountered"

end ErrorLine

/-! ## §3 Replies -/

/-- A reply of a stream server. -/
inductive Reply where
  | simple (s : String)
  | bulk (s : String)
  | integer (n : Int)
  | nil
  | error (line : String)
deriving DecidableEq, Repr

/-- Why a reply is not what a command asks for. -/
inductive ReplyProblem where
  | signalled (e : ErrorLine)
  /-- The reply is no text; it is described. -/
  | noText (description : String)
deriving DecidableEq, Repr

/-- The wording of a problem. -/
def ReplyProblem.message : ReplyProblem → String
  | .signalled e => e.message
  | .noText description =>
    "Response was of incompatible type - TypeError: \"Response type not string compatible.\" " ++
      s!"(response was {description})"

namespace Reply

/-- Whether a reply says that all is well. -/
def isOk (r : Reply) : Bool :=
  r = .simple "OK"

/-- The text of a reply. -/
def text : Reply → Except ReplyProblem String
  | .simple s | .bulk s => .ok s
  | .integer n => .error (.noText s!"int({n})")
  | .nil => .error (.noText "nil")
  | .error line => .error (.signalled (.ofText line))

end Reply

/-- A connection to a stream server. -/
structure Channel (W : Type) where
  /-- Send a command and wait for its reply. -/
  send : Command → Action W Reply

end EventOutbox.Stream
