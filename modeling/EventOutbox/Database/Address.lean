import EventOutbox.Text.Quoted
import EventOutbox.Url.Basic

/-!
# The address of a database

Where a database is and how to talk to it, read from a URL.  What stands in its query counts more
than what stands in front; options that nobody knows are left out of account.
-/

namespace EventOutbox.Database

/-! ## §1 Addresses -/

/-- How the connection is encrypted. -/
inductive Encryption where
  | disable
  | allow
  | prefer
  | require
  | verifyAuthority
  | verifyFull
deriving DecidableEq, Repr

/-- The address of a database; what is left out has its standard value. -/
structure Address where
  /-- The name of the host, or the directory of its socket. -/
  host : Option String := none
  portNumber : Option Nat := none
  username : Option String := none
  password : Option String := none
  database : Option String := none
  encryption : Encryption := .prefer
  statementCache : Nat := 100
  /-- Settings of the server for the time of the connection. -/
  options : List String := []
deriving DecidableEq, Repr

/-- Why a text is no address of a database. -/
inductive AddressProblem where
  | url (p : Url.Problem)
  | text (p : Text.Utf8Problem)
  | encryption (value : String)
  | number (p : Text.NumberProblem)
  | ipAddress
deriving DecidableEq, Repr

/-- The wording of a problem. -/
def AddressProblem.message : AddressProblem → String
  | .url p => p.message
  | .text p => p.message
  | .encryption value =>
    s!"error with configuration: unknown value {Text.quote value} for `ssl_mode`"
  | .number p => p.message
  | .ipAddress => "invalid IP address syntax"

/-! ## §2 Reading -/

namespace Address

/-- The encryption of a name, in either case. -/
def readEncryption (value : String) : Except AddressProblem Encryption :=
  match value.map Char.toLower with
  | "disable" => .ok .disable
  | "allow" => .ok .allow
  | "prefer" => .ok .prefer
  | "require" => .ok .require
  | "verify-ca" => .ok .verifyAuthority
  | "verify-full" => .ok .verifyFull
  | _ => .error (.encryption value)

/-- Read a number up to a bound. -/
def readNumber (most : Nat) (value : String) : Except AddressProblem Nat :=
  (Text.readUnsigned most value.toList).mapError .number

/-- Read a part of a URL. -/
def readPart (cs : List Char) : Except AddressProblem String :=
  (Url.decodeText cs).mapError .text

/-- Set a server setting for the time of the connection. -/
def withOption (a : Address) (name value : String) : Address :=
  { a with options := a.options ++ [s!"-c {name}={value}"] }

/-- What stands in brackets after the name of a group of options. -/
def optionName? (name : String) : Option String :=
  match name.toList.reverse with
  | ']' :: rest =>
    let cs := rest.reverse
    let start := "options[".toList
    if start.isPrefixOf cs then some (String.ofList (cs.drop start.length)) else none
  | _ => none

/-- Take one option of a query into account. -/
def withParameter (a : Address) : String × String → Except AddressProblem Address
  | ("sslmode", value) | ("ssl-mode", value) => do
    let encryption ← readEncryption value
    pure { a with encryption }
  | ("statement-cache-capacity", value) => do
    let statementCache ← readNumber 18446744073709551615 value
    pure { a with statementCache }
  | ("hostaddr", value) =>
    if Url.isIpAddress value.toList then .ok { a with host := some value } else .error .ipAddress
  | ("port", value) => do
    let portNumber ← readNumber 65535 value
    pure { a with portNumber := some portNumber }
  | ("host", value) => .ok { a with host := some value }
  | ("dbname", value) => .ok { a with database := some value }
  | ("user", value) => .ok { a with username := some value }
  | ("password", value) => .ok { a with password := some value }
  | ("options", value) => .ok { a with options := a.options ++ [value] }
  | (name, value) =>
    match optionName? name with
    | some option => .ok (a.withOption option value)
    | none => .ok a

/-- The host in a URL.  It is decoded when it is the directory of a socket. -/
def readHost (host : List Char) : Except AddressProblem String :=
  match Url.percentDecode host with
  | 0x2F :: _ => readPart host
  | _ => .ok (String.ofList host)

/-- Read the address of a database from a URL. -/
def ofText (s : String) : Except AddressProblem Address := do
  let u ← (Url.ofText s).mapError .url
  let host ← match u.host with
    | none => pure none
    | some h => (readHost h).map some
  let username ← if u.username.isEmpty then pure none else (readPart u.username).map some
  let password ← match u.password with
    | none => pure none
    | some p => (readPart p).map some
  let path := u.path.chars.dropWhile (· = '/')
  let database := if path.isEmpty then none else some (String.ofList path)
  (Url.queryPairs (u.query.getD [])).foldlM withParameter
    { host, portNumber := u.portNumber, username, password, database }

end Address

end EventOutbox.Database
