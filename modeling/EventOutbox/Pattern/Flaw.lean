import EventOutbox.Pattern.Reader

/-!
# What is wrong with a pattern

A pattern is refused when it cannot be read, when it is nested too deeply, when two of its groups
have the same name, and when it asks for tables of characters that are not at hand: the shorthands
for digits, blanks and words of all scripts, properties of characters, and letters of either case
of all scripts.  Patterns about bytes do without these tables, but must not match anything that is
not text.  The borders of words are known for bytes only.
-/

namespace EventOutbox

/-! ## §1 Flaws -/

/-- What is wrong with a pattern. -/
inductive PatternFlaw where
  /-- It does not stand for any search. -/
  | unusable
  /-- It asks for the borders of words in every script. -/
  | wordBoundary
deriving DecidableEq, Repr

/-- The wording of a flaw. -/
def PatternFlaw.message : PatternFlaw → String
  | .unusable => "error building NFA"
  | .wordBoundary =>
    "unsupported regex feature for DFAs: cannot build DFAs for regexes with Unicode word " ++
      "boundaries; switch to ASCII word boundaries, or heuristically enable Unicode word " ++
      "boundaries or use a different regex engine"

/-! ## §2 Options in force -/

/-- The options on which it depends what a pattern may hold. -/
structure PatternMode where
  ignoreCase : Bool := false
  /-- Patterns are about characters and not about bytes. -/
  unicode : Bool := true
deriving DecidableEq, Repr

/-- The options after some have been switched. -/
def PatternMode.switch (m : PatternMode) (s : PatternSwitches) : PatternMode :=
  { ignoreCase := (s.lookup .ignoreCase).getD m.ignoreCase
    unicode := (s.lookup .unicode).getD m.unicode }

/-! ## §3 Classes of characters -/

mutual

/-- Whether a class of characters has members, unless it asks for a table that is not at hand. -/
def ClassMembers.isInhabited? (ignoreCase : Bool) : ClassMembers → Option Bool
  | .atom (.char _) | .atom (.byte _) | .range _ _ | .named _ => some true
  | .atom _ => none
  | .union ms => ClassMembers.areInhabited? ignoreCase ms
  | .bracketed negated m =>
    match m.isInhabited? ignoreCase with
    | some inhabited => if ignoreCase && inhabited then none else some (negated || inhabited)
    | none => none
  | .combined _ a b =>
    match a.isInhabited? ignoreCase, b.isInhabited? ignoreCase with
    | some x, some y => if ignoreCase && (x || y) then none else some (x || y)
    | _, _ => none

/-- Whether one of several classes has members. -/
def ClassMembers.areInhabited? (ignoreCase : Bool) : List ClassMembers → Option Bool
  | [] => some false
  | m :: ms =>
    match m.isInhabited? ignoreCase, ClassMembers.areInhabited? ignoreCase ms with
    | some x, some y => some (x || y)
    | _, _ => none

end

/-! ## §4 Classes of bytes -/

/-- Whether a member of a class of bytes is a single byte of ASCII. -/
def PatternAtom.isAscii : PatternAtom → Bool
  | .char c => c.toNat < 0x80
  | .byte n => n < 0x80
  | _ => false

/-- Combine two answers about membership. -/
def ClassOperation.apply : ClassOperation → Bool → Bool → Bool
  | .intersection, a, b => a && b
  | .difference, a, b => a && !b
  | .symmetricDifference, a, b => a != b

mutual

/-- Whether a class of bytes holds the bytes beyond ASCII, of which it holds all or none.  No class
between brackets may hold them. -/
def ClassMembers.holdsHigh? : ClassMembers → Option Bool
  | .atom (.shorthand negated) => if negated then none else some false
  | .atom a => if a.isAscii then some false else none
  | .range first last => if first.isAscii && last.isAscii then some false else none
  | .named negated => some negated
  | .union ms => ClassMembers.holdHigh? ms
  | .bracketed negated m =>
    match m.holdsHigh? with
    | some high => if high != negated then none else some false
    | none => none
  | .combined op a b =>
    match a.holdsHigh?, b.holdsHigh? with
    | some x, some y => some (op.apply x y)
    | _, _ => none

/-- Whether one of several classes of bytes holds the bytes beyond ASCII. -/
def ClassMembers.holdHigh? : List ClassMembers → Option Bool
  | [] => some false
  | m :: ms =>
    match m.holdsHigh?, ClassMembers.holdHigh? ms with
    | some x, some y => some (x || y)
    | _, _ => none

end

/-- Whether a class is usable. -/
def PatternMode.admitsClass (m : PatternMode) (negated : Bool) (members : ClassMembers) : Bool :=
  if m.unicode then ((ClassMembers.bracketed negated members).isInhabited? m.ignoreCase).isSome
  else (ClassMembers.bracketed negated members).holdsHigh?.isSome

/-- Whether an atom outside of brackets is usable. -/
def PatternMode.admitsAtom (m : PatternMode) : PatternAtom → Bool
  | .char _ => !(m.ignoreCase && m.unicode)
  | .byte n => if m.unicode then !m.ignoreCase else n < 0x80
  | .shorthand negated => !m.unicode && !negated
  | .property => false
  | .wordBoundary | .anchor => true

/-! ## §5 Patterns -/

namespace Pattern

mutual

/-- The options in force behind a pattern, and whether it asks for the borders of words in every
script; nothing when it is unusable. -/
def inspect? (m : PatternMode) : Pattern → Option (PatternMode × Bool)
  | .atom a => if m.admitsAtom a then some (m, a = .wordBoundary && m.unicode) else none
  | .anyChar => if m.unicode then some (m, false) else none
  | .class_ negated members => if m.admitsClass negated members then some (m, false) else none
  | .switches s => some (m.switch s, false)
  | .repeated p => p.inspect? m
  | .group _ s p => (p.inspect? (m.switch s)).map fun (_, borders) => (m, borders)
  | .sequence ps | .alternatives ps => inspectAll? m ps

/-- Inspect patterns one after the other. -/
def inspectAll? (m : PatternMode) : List Pattern → Option (PatternMode × Bool)
  | [] => some (m, false)
  | p :: ps =>
    match p.inspect? m with
    | some (m, borders) => (inspectAll? m ps).map fun (m, more) => (m, borders || more)
    | none => none

end

/-- How deeply a pattern may be nested. -/
def nestingLimit : Nat := 250

/-- What is wrong with a pattern, if anything is. -/
def flaw? (cs : List Char) : Option PatternFlaw :=
  match ofChars? cs with
  | none => some .unusable
  | some p =>
    if nestingLimit < p.depth || !decide p.groupNames.Nodup then some .unusable
    else
      match p.inspect? {} with
      | none => some .unusable
      | some (_, borders) => if borders then some .wordBoundary else none

end Pattern

end EventOutbox
