import EventOutbox.Instant.Basic
import EventOutbox.Text.Blank
import EventOutbox.Text.Decimal

/-!
# The text of an instant

An instant is written as `2024-01-15T10:30:00.250Z`: the fraction has the least of 0, 3, 6 or 9
digits that hold it, and a year outside 0 to 9999 has a sign.  A whole second within the fraction is
written as part of the seconds, so that a leap second is written as second 60.  Reading is more
liberal: white space before numbers and separators, years of any length after a sign, short numbers,
`t` or a blank for the `T`, any number of fraction digits (cut after nine), and offsets from
universal time.
-/

namespace EventOutbox.Instant

open EventOutbox.Text

/-! ## §1 Writing -/

/-- The year: four digits, or a sign and at least four digits. -/
def yearChars (year : Int) : List Char :=
  if 0 ≤ year ∧ year ≤ 9999 then fixedDecimal 4 year.toNat
  else (if year < 0 then '-' else '+') :: paddedDecimal 4 year.natAbs

/-- The fraction of a second, in the least of 0, 3, 6 or 9 digits that hold it. -/
def fractionChars (nano : Nat) : List Char :=
  if nano = 0 then []
  else if nano % 1000000 = 0 then '.' :: fixedDecimal 3 (nano / 1000000)
  else if nano % 1000 = 0 then '.' :: fixedDecimal 6 (nano / 1000)
  else '.' :: fixedDecimal 9 nano

/-- The seconds as they are written, with the whole second that the fraction may hold. -/
def writtenSecond (t : Instant) : Nat :=
  t.second.val + t.overruns.toNat

/-- The fraction as it is written, without a whole second. -/
def writtenNano (t : Instant) : Nat :=
  t.nano.val % nanosPerSecond

/-- The text of an instant up to its offset. -/
def localChars (t : Instant) : List Char :=
  yearChars t.date.year ++ '-' :: fixedDecimal 2 t.date.month ++ '-' :: fixedDecimal 2 t.date.day ++
    'T' :: fixedDecimal 2 t.hour.val ++ ':' :: fixedDecimal 2 t.minute.val ++
    ':' :: fixedDecimal 2 t.writtenSecond ++ fractionChars t.writtenNano

/-- The text of an instant, as characters. -/
def chars (t : Instant) : List Char :=
  t.localChars ++ ['Z']

/-- The text of an instant. -/
def text (t : Instant) : String :=
  String.ofList t.chars

/-- The text of an instant with a numeric offset. -/
def offsetText (t : Instant) : String :=
  String.ofList (t.localChars ++ "+00:00".toList)

/-! ## §2 Scanning -/

/-- The reasons why a text is no instant. -/
inductive Problem where
  | outOfRange
  | invalid
  | tooShort
  | trailing
  | impossible
deriving DecidableEq, Repr

/-- The wording of a problem. -/
def Problem.message : Problem → String
  | .outOfRange => "input is out of range"
  | .invalid => "input contains invalid characters"
  | .tooShort => "premature end of input"
  | .trailing => "trailing input"
  | .impossible => "no possible date and time matching input"

/-- A scanner consumes characters from the front of a text. -/
abbrev Scan := StateT (List Char) (Except Problem)

/-- Skip white space. -/
def skipBlanks : Scan Unit := fun cs =>
  .ok ((), trimFront cs)

/-- Read at least one digit, and at most `width` of them if a width is given. -/
def number (width : Option Nat) : Scan Nat := fun cs =>
  let ds := (match width with | some w => cs.take w | none => cs).takeWhile isDigit
  if ds.isEmpty then .error (if cs.isEmpty then .tooShort else .invalid)
  else .ok (digitsValue ds, cs.drop ds.length)

/-- Read one given character. -/
def literal (c : Char) : Scan Unit := fun cs =>
  match cs with
  | [] => .error .tooShort
  | d :: rest => if d = c then .ok ((), rest) else .error .invalid

/-- Refuse a number that its field cannot hold. -/
def require (p : Bool) : Scan Unit :=
  if p then pure () else throw .outOfRange

/-- Read a field of at most two digits between two bounds. -/
def field (least most : Nat) : Scan Nat := do
  skipBlanks
  let n ← number (some 2)
  require (least ≤ n && n ≤ most)
  pure n

/-- Read a separator, with white space before it. -/
def separator (c : Char) : Scan Unit := do
  skipBlanks
  literal c

/-- Read the digits of a year, which may have a sign and then any number of digits. -/
def yearDigits : Scan Int := fun cs =>
  match cs with
  | '-' :: rest => (number none rest).map fun (n, cs) => (-(n : Int), cs)
  | '+' :: rest => (number none rest).map fun (n, cs) => ((n : Int), cs)
  | _ => (number (some 4) cs).map fun (n, cs) => ((n : Int), cs)

/-- Read a year, which has to fit 32 bits. -/
def yearField : Scan Int := do
  skipBlanks
  let year ← yearDigits
  require (-2147483648 ≤ year && year ≤ 2147483647)
  pure year

/-- Read the character between the day and the time. -/
def dayEnd : Scan Unit := fun cs =>
  match cs with
  | [] => .error .tooShort
  | c :: rest => if c = 'T' || c = 't' || c = ' ' then .ok ((), rest) else .error .invalid

/-- Read a fraction of a second in nanoseconds, if there is one.  Digits after the ninth are cut. -/
def fraction : Scan Nat := fun cs =>
  match cs with
  | '.' :: rest =>
    (number (some 9) rest).map fun (n, after) =>
      (n * Nat.pow 10 (9 - (rest.length - after.length)), after.dropWhile isDigit)
  | _ => .ok (0, cs)

/-- Read exactly two digits, as the numbers of an offset have. -/
def twoDigits : Scan Nat := fun cs =>
  match cs with
  | a :: b :: rest =>
    if isDigit a && isDigit b then .ok (10 * digitValue a + digitValue b, rest) else .error .invalid
  | [a] => .error (if a.utf8Size < 2 then .tooShort else .invalid)
  | [] => .error .tooShort

/-- Skip colons and white space between the numbers of an offset. -/
def skipColons : Scan Unit := fun cs =>
  .ok ((), cs.dropWhile fun c => c = ':' || isBlankChar c)

/-- Read the hours and minutes of an offset, in minutes. -/
def offsetMinutes : Scan Int := do
  let hours ← twoDigits
  skipColons
  let minutes ← twoDigits
  require (minutes ≤ 59)
  pure (60 * hours + minutes)

/-- Read an offset from universal time, in minutes. -/
def offset : Scan Int := fun cs =>
  match cs with
  | [] => .error .tooShort
  | c :: rest =>
    if (cs.take 3).map Char.toUpper = ['U', 'T', 'C'] then .ok (0, cs.drop 3)
    else if c = 'Z' || c = 'z' then .ok (0, rest)
    else if c = '+' then offsetMinutes rest
    else if c = '-' || c = '−' then (offsetMinutes rest).map fun (n, cs) => (-n, cs)
    else .error .invalid

/-! ## §3 Reading -/

/-- What the text of an instant says. -/
structure Reading where
  year : Int
  month : Nat
  day : Nat
  hour : Nat
  minute : Nat
  second : Nat
  nano : Nat
  offset : Int

/-- Read all fields of an instant. -/
def reading : Scan Reading := do
  let year ← yearField
  separator '-'
  let month ← field 1 12
  separator '-'
  let day ← field 1 31
  dayEnd
  let hour ← field 0 23
  separator ':'
  let minute ← field 0 59
  separator ':'
  let second ← field 0 60
  let nano ← fraction
  skipBlanks
  let offset ← offset
  pure { year, month, day, hour, minute, second, nano, offset }

/-- Move a day by whole days, of which an offset below 24 hours asks at most one. -/
def shiftDay? (d : Date) (days : Int) : Option Date :=
  if days = 0 then some d else if days < 0 then d.prev? else d.next?

/-- The instant that a reading denotes.  Second 60 is second 59 with a fraction that runs past
it. -/
def ofReading (r : Reading) : Except Problem Instant :=
  match Date.of? r.year r.month r.day with
  | none => .error .outOfRange
  | some date =>
    if 1440 ≤ r.offset.natAbs then .error .outOfRange
    else
      let minutes := (60 * r.hour + r.minute : Nat) - r.offset
      match shiftDay? date (minutes / 1440) with
      | none => .error .impossible
      | some date =>
        let leap := if r.second = 60 then 1 else 0
        .ok (ofFields date (minutes % 1440 / 60).toNat (minutes % 60).toNat (r.second - leap)
          (r.nano + leap * nanosPerSecond))

/-- Read an instant from characters. -/
def ofChars (cs : List Char) : Except Problem Instant :=
  match reading cs with
  | .error e => .error e
  | .ok (r, rest) => if (trimFront rest).isEmpty then ofReading r else .error .trailing

/-- Read an instant. -/
def ofText (s : String) : Except Problem Instant :=
  ofChars s.toList

end EventOutbox.Instant
