import EventOutbox.Text.Decimal
import EventOutbox.Text.Hexadecimal

/-!
# Identifiers

A 128-bit identifier, kept as its 32 hexadecimal digits.  It is written in the hyphenated
lower-case form and read from four forms: plain digits, hyphenated, hyphenated in braces, and
hyphenated after `urn:uuid:`.  A text in none of these forms that is not too long for all of them is
diagnosed character by character first, then by the number of its groups, then by their lengths.
-/

namespace EventOutbox

/-! ## §1 The type -/

/-- An identifier: 32 hexadecimal digits, the most significant one first. -/
structure Uuid where
  digits : List (Fin 16)
  length_digits : digits.length = 32
deriving DecidableEq

namespace Uuid

/-- The identifier as a number, which orders identifiers. -/
def toNat (u : Uuid) : Nat :=
  u.digits.foldl (fun n d => 16 * n + d.val) 0

/-- Compare two identifiers digit by digit. -/
def compare (a b : Uuid) : Ordering :=
  Ord.compare a.toNat b.toNat

/-- The last `count` hexadecimal digits of a number. -/
def hexOf : (count : Nat) → Nat → List (Fin 16)
  | 0, _ => []
  | count + 1, n => hexOf count (n / 16) ++ [Text.hexDigit n]

theorem length_hexOf (count n : Nat) : (hexOf count n).length = count := by
  induction count generalizing n with
  | zero => rfl
  | succ count ih => simp [hexOf, ih]

/-- The identifier that a number below `2 ^ 128` stands for. -/
def ofNat (n : Nat) : Uuid :=
  ⟨hexOf 32 n, length_hexOf 32 n⟩

/-- An identifier made from random bits: version 4, with the variant bits `10`. -/
def ofRandom (n : Nat) : Uuid :=
  let u := ofNat n
  let variant := Text.hexDigit (8 + (u.digits.getD 16 (Text.hexDigit 0)).val % 4)
  ⟨(u.digits.set 12 (Text.hexDigit 4)).set 16 variant, by simp [u.length_digits]⟩

/-- The version number of an identifier. -/
def version (u : Uuid) : Nat :=
  (u.digits.getD 12 (Text.hexDigit 0)).val

/-! ## §2 Writing -/

/-- The sizes of the five groups of the hyphenated form. -/
def groupSizes : List Nat := [8, 4, 4, 4, 12]

/-- Write characters in groups of the given sizes, with hyphens between them. -/
def hyphenate : List Nat → List Char → List Char
  | [], _ => []
  | [n], cs => cs.take n
  | n :: m :: ns, cs => cs.take n ++ '-' :: hyphenate (m :: ns) (cs.drop n)

/-- The hyphenated lower-case form, as characters. -/
def chars (u : Uuid) : List Char :=
  hyphenate groupSizes (u.digits.map Text.hexChar)

/-- The hyphenated lower-case form. -/
def text (u : Uuid) : String :=
  String.ofList u.chars

instance : ToString Uuid := ⟨text⟩

/-! ## §3 Reading -/

/-- Read 32 hexadecimal digits. -/
def ofHex? (cs : List Char) : Option Uuid :=
  match cs.mapM Text.hexValue? with
  | some ds => if h : ds.length = 32 then some ⟨ds, h⟩ else none
  | none => none

/-- Take the hyphens out of a text in groups of the given sizes. -/
def unhyphenate? : List Nat → List Char → Option (List Char)
  | [], cs => if cs.isEmpty then some [] else none
  | [n], cs => if cs.length = n then some cs else none
  | n :: m :: ns, cs =>
    match cs.drop n with
    | '-' :: rest => (unhyphenate? (m :: ns) rest).map (cs.take n ++ ·)
    | _ => none

/-- Read the hyphenated form. -/
def ofHyphenated? (cs : List Char) : Option Uuid :=
  (unhyphenate? groupSizes cs).bind ofHex?

/-- What stands between braces. -/
def braced? : List Char → Option (List Char)
  | '\x7b' :: cs => if cs.getLast? = some '\x7d' then some cs.dropLast else none
  | _ => none

/-- The letters before an identifier in a uniform resource name. -/
def urnMark : List Char := "urn:uuid:".toList

/-- What stands after the mark of a uniform resource name, whose letters count in either case. -/
def urn? (cs : List Char) : Option (List Char) :=
  if (cs.take 9).map Char.toLower = urnMark then some (cs.drop 9) else none

/-- Read an identifier in any of its four forms. -/
def ofChars? (cs : List Char) : Option Uuid :=
  (ofHyphenated? cs).or <|
    (ofHex? cs).or <|
      ((braced? cs).bind ofHyphenated?).or ((urn? cs).bind ofHyphenated?)

/-! ## §4 Why a text is no identifier -/

/-- The reasons why a text is no identifier. -/
inductive Problem where
  /-- A character that is neither a digit nor a hyphen, with its position in bytes. -/
  | character (c : Char) (position : Nat)
  /-- Plain digits of the wrong number. -/
  | length (found : Nat)
  /-- A wrong number of groups. -/
  | groupCount (found : Nat)
  /-- A group of the wrong length. -/
  | groupLength (group expected found : Nat)
deriving DecidableEq, Repr

/-- The wording of a problem. -/
def Problem.message : Problem → String
  | .character c position => s!"invalid character: found `{c}` at {position}"
  | .length found => s!"invalid length: found {found}"
  | .groupCount found => s!"invalid group count: expected 5, found {found}"
  | .groupLength group expected found =>
    s!"invalid group length in group {group}: expected {expected}, found {found}"

/-- The number of bytes that characters take. -/
def byteLength (cs : List Char) : Nat :=
  (String.ofList cs).utf8ByteSize

/-- The first character that is neither a digit nor a hyphen, with its position. -/
def firstStray? (position : Nat) : List Char → Option (Char × Nat)
  | [] => none
  | c :: cs =>
    if c = '-' || (Text.hexValue? c).isSome then firstStray? (position + c.utf8Size) cs
    else some (c, position)

/-- The lengths of the groups between the hyphens. -/
def groupLengths : List Char → List Nat
  | [] => [0]
  | c :: cs =>
    match c, groupLengths cs with
    | '-', ns => 0 :: ns
    | _, n :: ns => (n + 1) :: ns
    | _, [] => [1]

/-- The first of the leading groups whose length is wrong. -/
def firstWrongGroup? (group : Nat) : List Nat → List Nat → Option Problem
  | [_], _ => none
  | expected :: rest, found :: lengths =>
    if found = expected then firstWrongGroup? (group + 1) rest lengths
    else some (.groupLength group expected found)
  | _, _ => none

/-- The body of a wrapped text, what stands around it taken away. -/
def wrapped? (cs : List Char) : Option (List Char) :=
  (braced? cs).or (urn? cs)

/-- The longest text whose characters are looked at, in bytes: that of a resource name. -/
def longest : Nat := 45

/-- What is looked at to say why a text is no identifier: the characters, the position of the first
of them, and whether they stand bare.  A text of 32 or 36 bytes is taken as a bare form, whatever it
holds.  In a wrapped text of the right length positions count from the body on, in one of another
length from the start of the text. -/
def examined (cs : List Char) : List Char × Nat × Bool :=
  if byteLength cs = 32 || byteLength cs = 36 then (cs, 0, false) else
  match wrapped? cs with
  | some body =>
    (body, if byteLength body = 36 then 0 else if (braced? cs).isSome then 1 else 9, false)
  | none => (cs, 0, true)

/-- Why a text is no identifier.  When everything but the last group is right, the length reported
for it is that of the whole text less what stands before the group in the bare form. -/
def diagnose (cs : List Char) : Problem :=
  if longest < byteLength cs then .length (byteLength cs) else
  let (body, start, bare) := examined cs
  match firstStray? start body with
  | some (c, position) => .character c position
  | none =>
    let lengths := groupLengths body
    if lengths.length = 1 && bare then .length (byteLength cs)
    else if lengths.length ≠ 5 then .groupCount lengths.length
    else (firstWrongGroup? 0 groupSizes lengths).getD (.groupLength 4 12 (byteLength cs - 24))

/-- Read an identifier, or say why the text is none. -/
def ofText (s : String) : Except Problem Uuid :=
  match ofChars? s.toList with
  | some u => .ok u
  | none => .error (diagnose s.toList)

end Uuid

end EventOutbox
