import EventOutbox.Url.Domain

/-!
# URLs

The parts of an absolute URL, as they are written: scheme, user, host, port number, path and
query.  The schemes of the web always have a host, and a backslash counts as a slash in them; so
does it in the scheme of files, whose host may be left out and is the only part in front of the
path.
-/

namespace EventOutbox

open EventOutbox.Text

/-! ## §1 The type -/

/-- The path of a URL. -/
inductive UrlPath where
  /-- The parts behind the slashes. -/
  | segments (parts : List (List Char))
  /-- Text that does not begin with a slash, in a URL without a host. -/
  | bare (text : List Char)
deriving DecidableEq, Repr

/-- A path as text. -/
def UrlPath.chars : UrlPath → List Char
  | .segments parts => parts.flatMap ('/' :: ·)
  | .bare text => text

/-- An absolute URL; the parts keep their percent codes. -/
structure Url where
  /-- The scheme in lower case. -/
  scheme : String
  username : List Char := []
  password : Option (List Char) := none
  /-- The host, without the brackets of an address of version 6. -/
  host : Option (List Char) := none
  portNumber : Option Nat := none
  path : UrlPath
  query : Option (List Char) := none
deriving DecidableEq, Repr

namespace Url

/-! ## §2 The scheme -/

/-- The text that is read: without blanks and control characters at its ends, and without line
breaks and tabs.  -/
def relevant (cs : List Char) : List Char :=
  let outer (c : Char) := c.toNat ≤ 0x20
  (((cs.dropWhile outer).reverse.dropWhile outer).reverse).filter fun c =>
    c != '\t' && c != '\n' && c != '\r'

/-- Whether a character may stand in a scheme. -/
def isSchemeChar (c : Char) : Bool :=
  c.isAlphanum || c = '+' || c = '-' || c = '.'

/-- The scheme in lower case, and what follows the colon. -/
def splitScheme? (cs : List Char) : Option (String × List Char) :=
  let (scheme, rest) := cs.span isSchemeChar
  match scheme, rest with
  | first :: _, ':' :: rest =>
    if first.isAlpha then some (String.ofList (scheme.map Char.toLower), rest) else none
  | _, _ => none

/-- The schemes of the web. -/
def webSchemes : List String := ["http", "https", "ws", "wss", "ftp"]

/-! ## §3 Host and port number -/

/-- Whether a character ends the part of a URL that names the host. -/
def endsAuthority (web : Bool) (c : Char) : Bool :=
  c = '/' || c = '?' || c = '#' || (web && c = '\\')

/-- Whether a character cannot stand in the name of a host. -/
def isForbidden (c : Char) : Bool :=
  ['\x00', '\t', '\n', '\r', ' ', '#', '/', ':', '<', '>', '?', '@', '[', '\\', ']', '^',
    '|'].contains c

/-- What stands before and after the last `@`. -/
def splitLastAt? (cs : List Char) : Option (List Char × List Char) :=
  let (after, rest) := cs.reverse.span (· != '@')
  match rest with
  | [] => none
  | _ :: before => some (before.reverse, after.reverse)

/-- What stands before and from the first colon on that is not inside brackets. -/
def splitAtColon : (bracketed : Bool) → List Char → List Char × List Char
  | _, [] => ([], [])
  | bracketed, c :: cs =>
    if c = ':' && !bracketed then ([], c :: cs)
    else
      let inside := if c = '[' then true else if c = ']' then false else bracketed
      let (host, rest) := splitAtColon inside cs
      (c :: host, rest)

/-- Read a host of the web, which is not empty. -/
def readWebHost (cs : List Char) : Except Problem (List Char) :=
  match cs with
  | '[' :: inner =>
    if inner.getLast? = some ']' && isIpv6 inner.dropLast then .ok inner.dropLast
    else .error .ipv6
  | _ => readDomain cs

/-- Check a host, which may be empty. -/
def readHost (web : Bool) (cs : List Char) : Except Problem (Option (List Char)) :=
  if cs.isEmpty then if web then .error .emptyHost else .ok none
  else if web || cs.head? = some '[' then (readWebHost cs).map some
  else if cs.any isForbidden then .error .hostCharacter
  else .ok (some cs)

/-- Read a port number, and what a backslash leaves for the path. -/
def readPortNumber (cs : List Char) : Except Problem (Option Nat × List Char) :=
  let (digits, rest) := cs.span isDigit
  if 65535 < digitsValue digits then .error .portNumber
  else
    match rest with
    | [] | '\\' :: _ => .ok (if digits.isEmpty then none else some (digitsValue digits), rest)
    | _ => .error .portNumber

/-! ## §4 The path -/

/-- Whether a part of a path stands for the same level. -/
def isDot (part : List Char) : Bool :=
  ([".", "%2e"].map String.toList).contains (part.map Char.toLower)

/-- Whether a part of a path stands for the level above. -/
def isDoubleDot (part : List Char) : Bool :=
  (["..", "%2e.", ".%2e", "%2e%2e"].map String.toList).contains (part.map Char.toLower)

/-- The parts of a path after those read so far, the last one first, without dots. -/
def resolveDots : List (List Char) → List (List Char) → List (List Char)
  | done, [] => done.reverse
  | done, [part] =>
    if isDoubleDot part then ([] :: done.drop 1).reverse
    else if isDot part then ([] :: done).reverse
    else (part :: done).reverse
  | done, part :: parts =>
    if isDoubleDot part then resolveDots (done.drop 1) parts
    else if isDot part then resolveDots done parts
    else resolveDots (part :: done) parts

/-- The path that a text behind the host stands for. -/
def readPath (web : Bool) (cs : List Char) : UrlPath :=
  let cs := if web then cs.map fun c => if c = '\\' then '/' else c else cs
  match cs with
  | [] => .segments []
  | '/' :: rest => .segments (resolveDots [] (pieces '/' rest))
  | _ => .segments (resolveDots [] (pieces '/' cs))

/-! ## §5 Whole URLs -/

/-- What stands before the first question mark, and the query. -/
def splitQuery (cs : List Char) : List Char × Option (List Char) :=
  match (cs.takeWhile (· != '#')).span (· != '?') with
  | (path, []) => (path, none)
  | (path, _ :: query) => (path, some query)

/-- Read a URL behind the two slashes in front of its host. -/
def readAuthority (scheme : String) (web : Bool) (cs : List Char) : Except Problem Url := do
  let (authority, rest) := cs.span fun c => !endsAuthority web c
  let (user, hostAndPort) := (splitLastAt? authority).getD ([], authority)
  if user.isEmpty && (splitLastAt? authority).isSome && hostAndPort.isEmpty && !rest.isEmpty then
    throw .emptyHost
  let (username, afterUser) := user.span (· != ':')
  let password := if afterUser.length ≤ 1 then none else some (afterUser.drop 1)
  let (hostText, colonText) := splitAtColon false hostAndPort
  let host ← readHost web hostText
  if host.isNone && !colonText.isEmpty then throw .emptyHost
  let (portNumber, more) ← readPortNumber (colonText.drop 1)
  if host.isNone && !(username.isEmpty && password.isNone) then throw .emptyHost
  let (path, query) := splitQuery (more ++ rest)
  pure { scheme, username, password, host, portNumber, path := readPath web path, query }

/-- Whether a text names a drive, such as `c:` or `c|`. -/
def isDrive : List Char → Bool
  | [letter, sign] => letter.isAlpha && (sign = ':' || sign = '|')
  | _ => false

/-- Read a URL of a file behind its scheme.  A host stands behind two slashes; that of this machine
counts as none, and so does a drive, which belongs to the path. -/
def readFile (cs : List Char) : Except Problem Url := do
  let slash (c : Char) : Bool := c = '/' || c = '\\'
  let (host, rest) ← match cs with
    | a :: b :: rest =>
      if slash a && slash b then
        let (hostText, behind) := rest.span fun c => !endsAuthority true c
        if hostText.isEmpty || isDrive hostText then pure (none, rest)
        else
          let host ← readWebHost hostText
          pure (if host = "localhost".toList then none else some host, behind)
      else pure (none, cs)
    | _ => pure (none, cs)
  let (path, query) := splitQuery rest
  pure { scheme := "file", host, path := readPath true path, query }

/-- Read an absolute URL. -/
def ofText (s : String) : Except Problem Url :=
  match splitScheme? (relevant s.toList) with
  | none => .error .relative
  | some (scheme, rest) =>
    if webSchemes.contains scheme then
      readAuthority scheme true (rest.dropWhile fun c => c = '/' || c = '\\')
    else if scheme = "file" then readFile rest
    else
      match rest with
      | '/' :: '/' :: rest => readAuthority scheme false rest
      | _ =>
        let (path, query) := splitQuery rest
        match path with
        | '/' :: _ => .ok { scheme, path := readPath false path, query }
        | _ => .ok { scheme, path := .bare path, query }

end Url

end EventOutbox
