import EventOutbox.Json.Basic
import EventOutbox.Text.Hexadecimal

/-!
# Reading JSON text

A reader for the full JSON syntax.  An integer that fits 64 bits, with or without a sign, stays an
integer; every other number becomes a floating-point number.  Of several entries with one name the
last one counts.
-/

namespace EventOutbox.Json

open EventOutbox.Text

/-! ## §1 Numbers -/

/-- Append digits to a number as long as it stays below `2 ^ 64`; the result and how many fitted. -/
def keepDigits (n : Nat) : List Char → Nat × Nat
  | [] => (n, 0)
  | c :: cs =>
    let m := 10 * n + digitValue c
    if m < UInt64.size then
      let (r, kept) := keepDigits m cs
      (r, kept + 1)
    else (n, 0)

/-- Split off the digits at the front. -/
def digitRun (cs : List Char) : List Char × List Char :=
  (cs.takeWhile isDigit, cs.dropWhile isDigit)

/-- Read the digits of an exponent with its sign, after the letter. -/
def exponentDigits (cs : List Char) : Option (Int × List Char) :=
  let (negative, cs) := match cs with
    | '-' :: rest => (true, rest)
    | '+' :: rest => (false, rest)
    | _ => (false, cs)
  let (ds, rest) := digitRun cs
  if ds.isEmpty then none
  else some (if negative then -(digitsValue ds : Int) else digitsValue ds, rest)

/-- Read a number. -/
def readNumber (cs : List Char) : Option (Json × List Char) := do
  let (negative, cs) := match cs with
    | '-' :: rest => (true, rest)
    | _ => (false, cs)
  let (ds, rest) := digitRun cs
  if ds.isEmpty || (ds.head? = some '0' && 1 < ds.length) then none
  else
    let (fractional, fs, rest) ← match rest with
      | '.' :: rest' =>
        let (fs, rest'') := digitRun rest'
        if fs.isEmpty then none else some (true, fs, rest'')
      | _ => some (false, [], rest)
    let (powered, e, rest) ← match rest with
      | c :: rest' =>
        if c = 'e' || c = 'E' then (exponentDigits rest').map fun (e, r) => (true, e, r)
        else some (false, 0, rest)
      | [] => some (false, 0, rest)
    let magnitude := digitsValue ds
    let value : Int := if negative then -(magnitude : Int) else magnitude
    let fits :=
      if negative then 0 < magnitude && magnitude ≤ Nat.pow 2 63 else magnitude < UInt64.size
    if !fractional && !powered && fits then some (.integer value, rest)
    else
      let (significand, kept) := keepDigits 0 ds
      let (significand, keptAfter) := keepDigits significand fs
      let places : Int := (ds.length - kept : Nat) - keptAfter + e
      let x ← Binary64.ofDecimal? negative significand places
      some (.real x, rest)

/-! ## §2 Strings -/

/-- Read four hexadecimal digits. -/
def hexUnit : List Char → Option (Nat × List Char)
  | a :: b :: c :: d :: rest => do
    let a ← hexValue? a
    let b ← hexValue? b
    let c ← hexValue? c
    let d ← hexValue? d
    some (((a.val * 16 + b.val) * 16 + c.val) * 16 + d.val, rest)
  | _ => none

/-- Read the rest of an escape by code units, a surrogate pair included. -/
def unicodeEscape (cs : List Char) : Option (Char × List Char) := do
  let (high, rest) ← hexUnit cs
  if 0xD800 ≤ high && high < 0xDC00 then
    match rest with
    | '\\' :: 'u' :: rest' =>
      let (low, rest'') ← hexUnit rest'
      if 0xDC00 ≤ low && low < 0xE000 then
        some (Char.ofNat (0x10000 + (high - 0xD800) * 0x400 + (low - 0xDC00)), rest'')
      else none
    | _ => none
  else if 0xDC00 ≤ high && high < 0xE000 then none
  else some (Char.ofNat high, rest)

/-- Read what follows a backslash. -/
def escape : List Char → Option (Char × List Char)
  | '"' :: rest => some ('"', rest)
  | '\\' :: rest => some ('\\', rest)
  | '/' :: rest => some ('/', rest)
  | 'b' :: rest => some (Char.ofNat 8, rest)
  | 'f' :: rest => some (Char.ofNat 12, rest)
  | 'n' :: rest => some ('\n', rest)
  | 'r' :: rest => some ('\r', rest)
  | 't' :: rest => some ('\t', rest)
  | 'u' :: rest => unicodeEscape rest
  | _ => none

/-- Read a string after its opening quote; `fuel` bounds the number of its characters. -/
def readString : (fuel : Nat) → (done : List Char) → List Char → Option (String × List Char)
  | 0, _, _ => none
  | _ + 1, _, [] => none
  | fuel + 1, done, c :: rest =>
    if c = '"' then some (String.ofList done.reverse, rest)
    else if c = '\\' then
      match escape rest with
      | some (d, rest') => readString fuel (d :: done) rest'
      | none => none
    else if c.toNat < 32 then none
    else readString fuel (c :: done) rest

/-! ## §3 Values -/

/-- Skip the white space of JSON. -/
def skipSpace (cs : List Char) : List Char :=
  cs.dropWhile fun c => c = ' ' || c = '\n' || c = '\t' || c = '\r'

/-- Read a given word. -/
def word (w : String) (value : Json) (cs : List Char) : Option (Json × List Char) :=
  if w.toList.isPrefixOf cs then some (value, cs.drop w.length) else none

mutual

/-- Read a value; `fuel` bounds the number of values and separators. -/
def readValue : (fuel : Nat) → List Char → Option (Json × List Char)
  | 0, _ => none
  | fuel + 1, cs =>
    match skipSpace cs with
    | '"' :: rest => (readString (rest.length + 1) [] rest).map fun (s, r) => (.text s, r)
    | '[' :: rest =>
      match skipSpace rest with
      | ']' :: rest' => some (.array [], rest')
      | _ => (readItems fuel [] rest).map fun (items, r) => (.array items, r)
    | '\x7b' :: rest =>
      match skipSpace rest with
      | '\x7d' :: rest' => some (.object [], rest')
      | _ => (readEntries fuel [] rest).map fun (entries, r) => (.object entries, r)
    | 'n' :: _ => word "null" .null (skipSpace cs)
    | 't' :: _ => word "true" (.bool true) (skipSpace cs)
    | 'f' :: _ => word "false" (.bool false) (skipSpace cs)
    | rest => readNumber rest

/-- Read the items of an array after those already read. -/
def readItems : (fuel : Nat) → (done : List Json) → List Char → Option (List Json × List Char)
  | 0, _, _ => none
  | fuel + 1, done, cs =>
    match readValue fuel cs with
    | none => none
    | some (j, rest) =>
      match skipSpace rest with
      | ',' :: rest' => readItems fuel (j :: done) rest'
      | ']' :: rest' => some ((j :: done).reverse, rest')
      | _ => none

/-- Read the entries of an object after those already read. -/
def readEntries :
    (fuel : Nat) → (done : List (String × Json)) → List Char →
      Option (List (String × Json) × List Char)
  | 0, _, _ => none
  | fuel + 1, done, cs =>
    match skipSpace cs with
    | '"' :: rest =>
      match readString (rest.length + 1) [] rest with
      | none => none
      | some (k, rest) =>
        match skipSpace rest with
        | ':' :: rest =>
          match readValue fuel rest with
          | none => none
          | some (j, rest) =>
            match skipSpace rest with
            | ',' :: rest' => readEntries fuel (put k j done) rest'
            | '\x7d' :: rest' => some (put k j done, rest')
            | _ => none
        | _ => none
    | _ => none

end

/-- Read a whole text. -/
def ofText? (s : String) : Option Json :=
  let cs := s.toList
  match readValue (2 * cs.length + 2) cs with
  | some (j, rest) => if (skipSpace rest).isEmpty then some j else none
  | none => none

end EventOutbox.Json
