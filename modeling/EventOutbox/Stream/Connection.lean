import EventOutbox.Failure
import EventOutbox.Settings.Stream
import EventOutbox.Stream.Protocol
import EventOutbox.Url.Basic

/-!
# Connecting to a stream server

The address of a stream server is read from a URL: a host with a port number, or the path of a
local socket, and beside it a numbered database and the name and password to log in with.  A new
connection logs in first and then chooses the database.
-/

namespace EventOutbox.Stream

/-! ## §1 Addresses -/

/-- Where a server listens. -/
inductive Endpoint where
  | host (name : String) (portNumber : Nat)
  | socket (path : String)
deriving DecidableEq, Repr

/-- The address of a server. -/
structure Address where
  endpoint : Endpoint
  database : Int := 0
  username : Option String := none
  password : Option String := none
deriving DecidableEq, Repr

/-- Why a text is no address of a server. -/
inductive AddressProblem where
  | unreadable
  | noHost
  | encrypted
  | noPath
  | database
  | username
  | password
deriving DecidableEq, Repr

/-- The wording of a problem. -/
def AddressProblem.message : AddressProblem → String
  | .unreadable => "Redis URL did not parse"
  | .noHost => "Missing hostname"
  | .encrypted => "can't connect with TLS, the feature is not enabled"
  | .noPath => "Missing path"
  | .database => "Invalid database number"
  | .username => "Username is not valid UTF-8 string"
  | .password => "Password is not valid UTF-8 string"

namespace Address

/-- The port number of servers whose address names none. -/
def standardPortNumber : Nat := 6379

/-- Read the number of a database. -/
def readDatabase (cs : List Char) : Except AddressProblem Int :=
  (Text.readSigned cs).mapError fun _ => .database

/-- A path without the slashes at its ends. -/
def trimSlashes (cs : List Char) : List Char :=
  ((cs.dropWhile (· = '/')).reverse.dropWhile (· = '/')).reverse

/-- The address in a URL with a host. -/
def ofHostUrl (u : Url) : Except AddressProblem Address :=
  match u.host with
  | none => .error .noHost
  | some host =>
    if u.scheme = "rediss" then .error .encrypted
    else do
      let path := trimSlashes u.path.chars
      let database ← if path.isEmpty then pure 0 else readDatabase path
      let username ←
        if u.username.isEmpty then pure none
        else ((Url.decodeText u.username).mapError fun _ => .username).map some
      let password ← match u.password with
        | none => pure none
        | some p => ((Url.decodeText p).mapError fun _ => .password).map some
      let endpoint := .host (String.ofList host) (u.portNumber.getD standardPortNumber)
      pure { endpoint, database, username, password }

/-- The address in a URL of a local socket. -/
def ofSocketUrl (u : Url) : Except AddressProblem Address :=
  let here := u.host.isNone || u.host = some "localhost".toList
  match u.path with
  | .segments (part :: parts) =>
    if here then do
      let pairs := (Url.queryPairs (u.query.getD [])).reverse
      let database ← match pairs.lookup "db" with
        | none => pure 0
        | some n => readDatabase n.toList
      let path := Text.ofUtf8Lossy (Url.percentDecode (UrlPath.segments (part :: parts)).chars)
      pure { endpoint := .socket path, database, username := pairs.lookup "user",
             password := pairs.lookup "pass" }
    else .error .noPath
  | _ => .error .noPath

/-- Read the address of a server from a URL. -/
def ofText (s : String) : Except AddressProblem Address :=
  match Url.ofText s with
  | .error _ => .error .unreadable
  | .ok u =>
    if u.scheme = "redis" || u.scheme = "rediss" then ofHostUrl u
    else if u.scheme = "unix" || u.scheme = "redis+unix" then ofSocketUrl u
    else .error .unreadable

end Address

/-! ## §2 The start of a connection -/

/-- Why a connection does not come about. -/
inductive ConnectProblem where
  | address (p : AddressProblem)
  | timedOut
  | unreachable (reason : String)
  | notLoggedIn
  | notChosen
deriving DecidableEq, Repr

/-- The wording of a problem. -/
def ConnectProblem.message : ConnectProblem → String
  | .address p => s!"Invalid Redis URL: {p.message}- InvalidClientConfig"
  | .timedOut => "Timed out connecting to Redis"
  | .unreachable reason => s!"Failed to connect to Redis: {reason}"
  | .notLoggedIn =>
    "Failed to connect to Redis: Password authentication failed- AuthenticationFailed"
  | .notChosen =>
    "Failed to connect to Redis: Redis server refused to switch database- ResponseError"

/-- A problem as a failure. -/
def ConnectProblem.failure (p : ConnectProblem) : Failure :=
  .plain .publishFailed p.message

variable {W : Type}

/-- Whether a server refused to log in because it knows no usernames. -/
def knowsNoUsernames : Reply → Bool
  | .error line =>
    match (ErrorLine.ofText line).detail with
    | some detail => 1 < (detail.splitOn "wrong number of arguments for 'auth' command").length
    | none => false
  | _ => false

/-- Log in, if there is a password.  A server that knows no usernames is given the password alone.
-/
def logIn (channel : Channel W) (a : Address) : Action W (Except ConnectProblem Unit) :=
  match a.password with
  | none => pure (.ok ())
  | some password => do
    let reply ← channel.send (.logIn a.username password)
    if reply.isOk then pure (.ok ())
    else if knowsNoUsernames reply then
      let reply ← channel.send (.logIn none password)
      pure (if reply.isOk then .ok () else .error .notLoggedIn)
    else pure (.error .notLoggedIn)

/-- Choose the database, unless it is the first one. -/
def chooseDatabase (channel : Channel W) (a : Address) : Action W (Except ConnectProblem Unit) :=
  if a.database = 0 then pure (.ok ())
  else do
    let reply ← channel.send (.choose a.database)
    pure (if reply.isOk then .ok () else .error .notChosen)

/-- Connect to the server that settings name: reach it within the time that they allow, log in, and
choose the database. -/
def connect (reach : Endpoint → (seconds : UInt64) → Action W (Except ConnectProblem Unit))
    (channel : Channel W) (s : Settings.Stream) : Action W (Except Failure Unit) := do
  match Address.ofText s.url with
  | .error p => pure (.error (ConnectProblem.address p).failure)
  | .ok a =>
    match ← reach a.endpoint s.timeoutSecs with
    | .error p => pure (.error p.failure)
    | .ok () =>
      match ← logIn channel a with
      | .error p => pure (.error p.failure)
      | .ok () => pure ((← chooseDatabase channel a).mapError ConnectProblem.failure)

end EventOutbox.Stream
