import EventOutbox.Text.Blank
import EventOutbox.Text.Decimal
import EventOutbox.Text.Hexadecimal

/-!
# Internet addresses

Which texts are addresses of version 4 and of version 6.  An address of version 6 has eight groups
of hexadecimal digits; a double colon, which may occur once, stands for one or more groups of
zero, and an address of version 4 may stand for the last two groups.  A host of the web whose last
part is a number is an address of version 4 in a looser form: the parts may be octal or hexadecimal,
and the last of them stands for all bytes that are left.
-/

namespace EventOutbox.Url

open EventOutbox.Text

/-- Whether a text is a number of at most 255, without leading zeros. -/
def isOctet (cs : List Char) : Bool :=
  match readDecimal? cs with
  | some n => n ≤ 255 && cs = decimal n
  | none => false

/-- Whether a text is an address of version 4. -/
def isIpv4 (cs : List Char) : Bool :=
  let parts := pieces '.' cs
  parts.length = 4 && parts.all isOctet

/-- Whether a text is a group of an address of version 6. -/
def isGroup (cs : List Char) : Bool :=
  !cs.isEmpty && cs.length ≤ 4 && cs.all fun c => (hexValue? c).isSome

/-- The number of groups in a list of them, whose last one may be an address of version 4. -/
def groupCount? : List (List Char) → Option Nat
  | [] => some 0
  | [g] => if isGroup g then some 1 else if isIpv4 g then some 2 else none
  | g :: gs => if isGroup g then (groupCount? gs).map (· + 1) else none

/-- What stands before and after the first double colon. -/
def atDoubleColon? : List Char → Option (List Char × List Char)
  | [] => none
  | ':' :: ':' :: cs => some ([], cs)
  | c :: cs => (atDoubleColon? cs).map fun (before, after) => (c :: before, after)

/-- The groups of a text, of which there are none in the empty text. -/
def groupsOf (cs : List Char) : List (List Char) :=
  if cs.isEmpty then [] else pieces ':' cs

/-- Whether a text is an address of version 6. -/
def isIpv6 (cs : List Char) : Bool :=
  match atDoubleColon? cs with
  | none => groupCount? (groupsOf cs) = some 8
  | some (before, after) =>
    match groupCount? (groupsOf after) with
    | some n => (groupsOf before).all isGroup && (groupsOf before).length + n ≤ 7
    | none => false

/-- Whether a text is an address of either version. -/
def isIpAddress (cs : List Char) : Bool :=
  isIpv4 cs || isIpv6 cs

/-! ## Numbers as hosts -/

/-- The number that digits to a base stand for. -/
def readBase? (base : Nat) (cs : List Char) : Option Nat :=
  cs.foldlM (fun n c => do
    let d ← hexValue? c
    if d.val < base then some (base * n + d.val) else none) 0

/-- Read a part of a looser address: hexadecimal behind `0x`, octal behind another zero. -/
def readLoosePart? : List Char → Option Nat
  | [] => none
  | '0' :: 'x' :: cs | '0' :: 'X' :: cs => readBase? 16 cs
  | '0' :: c :: cs => readBase? 8 (c :: cs)
  | cs => readBase? 10 cs

/-- The parts of a looser address; a dot may end it. -/
def looseParts (cs : List Char) : List (List Char) :=
  let parts := pieces '.' cs
  if parts.getLast? = some [] then parts.dropLast else parts

/-- Whether the last part of a host is a number. -/
def endsInNumber (cs : List Char) : Bool :=
  match (looseParts cs).getLast? with
  | none => false
  | some part => (readDecimal? part).isSome || (readLoosePart? part).isSome

/-- Whether a host whose last part is a number is an address. -/
def isLooseIpv4 (cs : List Char) : Bool :=
  let parts := looseParts cs
  match parts.mapM readLoosePart? with
  | none => false
  | some numbers =>
    parts.length ≤ 4 && numbers.dropLast.all (· ≤ 255) &&
      numbers.getLast?.any (· < Nat.pow 256 (5 - numbers.length))

end EventOutbox.Url
