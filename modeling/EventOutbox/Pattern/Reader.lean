import EventOutbox.Pattern.Basic
import EventOutbox.Text.Alphanumeric
import EventOutbox.Text.Hexadecimal

/-!
# Reading patterns

A pattern is read from left to right.  There is no way to look around and none to refer back to a
group.  A brace outside of brackets is refused: it would begin a form that ends with a closing
brace, which ends the field of a log filter before it gets here.
-/

namespace EventOutbox.Pattern

open EventOutbox.Text

/-! ## §1 Filler -/

/-- What follows white space and comments; a comment reaches from `#` to the end of its line. -/
def dropFiller (inComment : Bool) : List Char → List Char
  | [] => []
  | c :: cs =>
    if inComment then dropFiller (c != '\n') cs
    else if isBlankChar c then dropFiller false cs
    else if c = '#' then dropFiller true cs
    else c :: cs

/-- What follows the filler, where filler is passed over. -/
def skip (spaced : Bool) (cs : List Char) : List Char :=
  if spaced then dropFiller false cs else cs

/-- The character that counts as the next one when it is asked for ahead of time.  Here a sign of a
comment is passed over by itself, and the comment is not. -/
def ahead? (spaced : Bool) (cs : List Char) : Option Char :=
  if spaced then
    match cs.dropWhile isBlankChar with
    | '#' :: rest => ((rest.dropWhile isBlankChar).head?).or cs.head?
    | c :: _ => some c
    | [] => cs.head?
  else cs.head?

/-! ## §2 Escapes -/

/-- Whether a character stands for itself behind a backslash: a sign of ASCII, apart from angle
brackets. -/
def isEscapable (c : Char) : Bool :=
  c.toNat < 0x80 && !c.isAlphanum && c != '<' && c != '>'

/-- Read hexadecimal digits with filler behind each of them. -/
def readHex (spaced : Bool) : (count : Nat) → (value : Nat) → List Char → Option (Nat × List Char)
  | 0, value, cs => some (value, cs)
  | _ + 1, _, [] => none
  | count + 1, value, c :: cs => do
    let digit ← hexValue? c
    readHex spaced count (16 * value + digit.val) (skip spaced cs)

/-- Read what follows a backslash. -/
def readEscape (spaced : Bool) : List Char → Option (PatternAtom × List Char)
  | [] => none
  | c :: cs =>
    let char (n : Nat) : Option (PatternAtom × List Char) := some (.char (Char.ofNat n), cs)
    match c with
    | 'x' => (readHex spaced 2 0 (skip spaced cs)).map fun (n, rest) => (.byte n, rest)
    | 'u' | 'U' => do
      let (n, rest) ← readHex spaced (if c = 'u' then 4 else 8) 0 (skip spaced cs)
      if n.isValidChar then some (.char (Char.ofNat n), rest) else none
    | 'p' | 'P' => some (.property, cs.drop 1)
    | 'd' | 's' | 'w' => some (.shorthand false, cs)
    | 'D' | 'S' | 'W' => some (.shorthand true, cs)
    | 'a' => char 7
    | 'f' => char 12
    | 't' => char 9
    | 'n' => char 10
    | 'r' => char 13
    | 'v' => char 11
    | 'A' | 'z' => some (.anchor, cs)
    | 'b' | 'B' | '<' | '>' => some (.wordBoundary, cs)
    | _ => if isEscapable c then some (.char c, cs) else none

/-! ## §3 Classes -/

/-- The names that classes of ASCII characters have. -/
def classNames : List String :=
  ["alnum", "alpha", "ascii", "blank", "cntrl", "digit", "graph", "lower", "print", "punct",
    "space", "upper", "word", "xdigit"]

/-- Read a class with a name behind its bracket, and say whether it is negated. -/
def readNamed? : List Char → Option (Bool × List Char)
  | ':' :: cs =>
    let (negated, cs) := match cs with
      | '^' :: rest => (true, rest)
      | _ => (false, cs)
    match cs.span (· != ':') with
    | (name, ':' :: ']' :: rest) =>
      if classNames.contains (String.ofList name) then some (negated, rest) else none
    | _ => none
  | _ => none

/-- Read one character or escape inside brackets. -/
def readMember (spaced : Bool) : List Char → Option (PatternAtom × List Char)
  | [] => none
  | '\\' :: cs => readEscape spaced cs
  | c :: cs => some (.char c, cs)

/-- The code point of a single character. -/
def codePoint? : PatternAtom → Option Nat
  | .char c => some c.toNat
  | .byte n => some n
  | _ => none

/-- Whether an atom may stand inside brackets. -/
def isMember : PatternAtom → Bool
  | .wordBoundary | .anchor => false
  | _ => true

/-- Read a member of a class, or a range of them. -/
def readRange (spaced : Bool) (cs : List Char) : Option (ClassMembers × List Char) := do
  let (first, cs) ← readMember spaced cs
  let single := if isMember first then some (ClassMembers.atom first) else none
  match skip spaced cs with
  | [] => none
  | '-' :: rest =>
    if [some ']', some '-'].contains (ahead? spaced rest) then
      single.map fun m => (m, '-' :: rest)
    else
      let (last, rest) ← readMember spaced (skip spaced rest)
      let low ← codePoint? first
      let high ← codePoint? last
      if low ≤ high then some (.range first last, rest) else none
  | rest => single.map fun m => (m, rest)

/-- The left side of a class with what stands on its right. -/
def combine (left : Option (ClassOperation × ClassMembers)) (right : ClassMembers) :
    ClassMembers :=
  match left with
  | some (op, l) => .combined op l right
  | none => right

/-- Read the hyphens at the beginning of a class; at least one character follows them. -/
def readHyphens (spaced : Bool) : (fuel : Nat) → (done : List ClassMembers) → List Char →
    Option (List ClassMembers × List Char)
  | 0, _, _ => none
  | fuel + 1, done, cs =>
    match skip spaced cs with
    | [] => none
    | '-' :: rest => readHyphens spaced fuel (.atom (.char '-') :: done) rest
    | rest => some (done, rest)

/-- Read the beginning of a class behind its bracket: whether it is negated, and the hyphens, or the
closing bracket, that stand for themselves there. -/
def readClassStart (spaced : Bool) (cs : List Char) :
    Option (Bool × List ClassMembers × List Char) := do
  let (negated, cs) := match skip spaced cs with
    | '^' :: rest => (true, rest)
    | rest => (false, rest)
  let (hyphens, cs) ← readHyphens spaced (cs.length + 1) [] cs
  match hyphens, cs with
  | [], ']' :: rest => some (negated, [.atom (.char ']')], rest)
  | _, _ => some (negated, hyphens, cs)

/-- The operation that two equal signs stand for, and what follows them. -/
def operation? : List Char → Option (ClassOperation × List Char)
  | '&' :: '&' :: rest => some (.intersection, rest)
  | '-' :: '-' :: rest => some (.difference, rest)
  | '~' :: '~' :: rest => some (.symmetricDifference, rest)
  | _ => none

/-- Read the rest of a class, given the side on the left and the members read so far, the last one
first; `fuel` bounds the number of members. -/
def readMembers (spaced : Bool) : (fuel : Nat) → (left : Option (ClassOperation × ClassMembers)) →
    (done : List ClassMembers) → List Char → Option (ClassMembers × List Char)
  | 0, _, _, _ => none
  | fuel + 1, left, done, cs =>
    let side := combine left (.ofList done.reverse)
    match skip spaced cs with
    | [] => none
    | ']' :: rest => some (side, rest)
    | '[' :: rest =>
      match readNamed? rest with
      | some (negated, rest) => readMembers spaced fuel left (.named negated :: done) rest
      | none =>
        match readClassStart spaced rest with
        | none => none
        | some (negated, start, rest) =>
          match readMembers spaced fuel none start rest with
          | none => none
          | some (inner, rest) =>
            readMembers spaced fuel left (.bracketed negated inner :: done) rest
    | rest =>
      match operation? rest with
      | some (op, rest) => readMembers spaced fuel (some (op, side)) [] rest
      | none =>
        match readRange spaced rest with
        | none => none
        | some (m, rest) => readMembers spaced fuel left (m :: done) rest

/-- Read a class behind its bracket. -/
def readClass (spaced : Bool) (cs : List Char) : Option (Pattern × List Char) := do
  let (negated, start, rest) ← readClassStart spaced cs
  let (members, rest) ← readMembers spaced (cs.length + 1) none start rest
  some (.class_ negated members, rest)

/-! ## §4 Groups -/

/-- What follows a given beginning. -/
def after? (start : String) (cs : List Char) : Option (List Char) :=
  if start.toList.isPrefixOf cs then some (cs.drop start.length) else none

/-- Whether a group behind its bracket looks around, which is not possible. -/
def looksAround (cs : List Char) : Bool :=
  ["?=", "?!", "?<=", "?<!"].any fun start => (after? start cs).isSome

/-- Whether a text is the name of a group. -/
def isGroupName : List Char → Bool
  | [] => false
  | c :: cs =>
    (c = '_' || isAlphabetic c) &&
      cs.all fun d => d = '_' || d = '.' || d = '[' || d = ']' || isAlphanumeric d

/-- Read options up to a colon or a closing bracket, which is the first character of the rest.  No
option occurs twice, and options to be switched off follow one hyphen. -/
def readSwitches : (on : Bool) → (done : PatternSwitches) → List Char →
    Option (PatternSwitches × List Char)
  | _, _, [] => none
  | on, done, c :: cs =>
    if c = ':' || c = ')' then some (done.reverse, c :: cs)
    else if c = '-' then
      if on && !(cs.head? = some ':' || cs.head? = some ')') then readSwitches false done cs
      else none
    else
      match PatternOption.ofChar? c with
      | some option =>
        if (done.lookup option).isSome then none else readSwitches on ((option, on) :: done) cs
      | none => none

/-- What a group begins with. -/
inductive GroupStart where
  | switches (s : PatternSwitches)
  | group (name : Option (List Char)) (s : PatternSwitches)

/-- Read the beginning of a group behind its bracket. -/
def readGroupStart (spaced : Bool) (cs : List Char) : Option (GroupStart × List Char) :=
  let cs := skip spaced cs
  if looksAround cs then none
  else
    match (after? "?P<" cs).or (after? "?<" cs) with
    | some cs =>
      match cs.span (· != '>') with
      | (name, _ :: rest) => if isGroupName name then some (.group (some name) [], rest) else none
      | _ => none
    | none =>
      match cs with
      | '?' :: cs =>
        match readSwitches true [] cs with
        | some (s, ':' :: rest) => some (.group none s, rest)
        | some (s, _ :: rest) => if s.isEmpty then none else some (.switches s, rest)
        | _ => none
      | _ => some (.group none [], cs)

/-! ## §5 Whole patterns -/

/-- Whether filler is passed over after options have been switched. -/
def spacedAfter (spaced : Bool) (s : PatternSwitches) : Bool :=
  (s.lookup .spaced).getD spaced

/-- Read branches up to a closing bracket or the end, given the branches read so far and the parts
of the present one, the last ones first; `fuel` bounds the number of parts. -/
def readBranches : (fuel : Nat) → (spaced : Bool) → (branches parts : List Pattern) →
    List Char → Option (Pattern × List Char)
  | 0, _, _, _, _ => none
  | fuel + 1, spaced, branches, parts, cs =>
    let all := ofBranches (ofParts parts.reverse :: branches).reverse
    match skip spaced cs with
    | [] => some (all, [])
    | ')' :: rest => some (all, ')' :: rest)
    | '|' :: rest => readBranches fuel spaced (ofParts parts.reverse :: branches) [] rest
    | '(' :: rest =>
      match readGroupStart spaced rest with
      | none => none
      | some (.switches s, rest) =>
        readBranches fuel (spacedAfter spaced s) branches (.switches s :: parts) rest
      | some (.group name s, rest) =>
        match readBranches fuel (spacedAfter spaced s) [] [] rest with
        | some (inner, ')' :: rest) =>
          readBranches fuel spaced branches (.group name s inner :: parts) rest
        | _ => none
    | '[' :: rest =>
      match readClass spaced rest with
      | some (p, rest) => readBranches fuel spaced branches (p :: parts) rest
      | none => none
    | '\x7b' :: _ => none
    | '.' :: rest => readBranches fuel spaced branches (.anyChar :: parts) rest
    | '\\' :: rest =>
      match readEscape spaced rest with
      | some (a, rest) => readBranches fuel spaced branches (.atom a :: parts) rest
      | none => none
    | c :: rest =>
      if c = '?' || c = '*' || c = '+' then
        match parts with
        | p :: ps =>
          if p.isSwitches then none
          else readBranches fuel spaced branches (.repeated p :: ps) ((after? "?" rest).getD rest)
        | [] => none
      else
        let atom := if c = '^' || c = '$' then PatternAtom.anchor else .char c
        readBranches fuel spaced branches (.atom atom :: parts) rest

/-- Read a whole pattern. -/
def ofChars? (cs : List Char) : Option Pattern :=
  match readBranches (cs.length + 1) false [] [] cs with
  | some (p, []) => some p
  | _ => none

end EventOutbox.Pattern
