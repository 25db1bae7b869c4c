import EventOutbox.Json.Basic

/-!
# The compact text of a JSON value

A value without any white space, the names of an object in increasing order.  Only quotes,
backslashes and control characters are escaped.
-/

namespace EventOutbox.Json

open EventOutbox.Text

/-- A hexadecimal digit in lower case. -/
def escapeDigit (n : Nat) : Char :=
  if n < 10 then Char.ofNat (48 + n) else Char.ofNat (87 + n)

/-- How one character stands in a JSON string. -/
def escapeChar (c : Char) : List Char :=
  if c = '"' then ['\\', '"']
  else if c = '\\' then ['\\', '\\']
  else if c.toNat = 8 then ['\\', 'b']
  else if c.toNat = 12 then ['\\', 'f']
  else if c = '\n' then ['\\', 'n']
  else if c = '\r' then ['\\', 'r']
  else if c = '\t' then ['\\', 't']
  else if c.toNat < 32 then
    ['\\', 'u', '0', '0', escapeDigit (c.toNat / 16), escapeDigit (c.toNat % 16)]
  else [c]

/-- A string literal. -/
def stringLiteral (s : String) : String :=
  String.ofList ('"' :: s.toList.flatMap escapeChar ++ ['"'])

/-- Entries in the order of their names. -/
def sortEntries {α : Type} (entries : List (String × α)) : List (String × α) :=
  entries.mergeSort fun a b => a.1 ≤ b.1

/-- Pieces with commas between them. -/
def commaSeparated (pieces : List String) : String :=
  ",".intercalate pieces

mutual

/-- The compact text of a value. -/
def compact : Json → String
  | .null => "null"
  | .bool true => "true"
  | .bool false => "false"
  | .integer n => toString n
  | .real x => x.text
  | .text s => stringLiteral s
  | .array items => "[" ++ commaSeparated (compactItems items) ++ "]"
  | .object entries =>
    let fields := (sortEntries (compactEntries entries)).map fun (k, v) =>
      stringLiteral k ++ ":" ++ v
    "\x7b" ++ commaSeparated fields ++ "\x7d"

/-- The compact texts of the items of an array. -/
def compactItems : List Json → List String
  | [] => []
  | j :: js => compact j :: compactItems js

/-- The compact texts of the values of an object. -/
def compactEntries : List (String × Json) → List (String × String)
  | [] => []
  | (k, j) :: rest => (k, compact j) :: compactEntries rest

end

end EventOutbox.Json
