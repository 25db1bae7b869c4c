/-!
# Search patterns

Regular expressions as they stand in a log filter: their tree, how deeply it is nested, and the
names of its groups.  A pattern is only checked, never matched, so the tree keeps what the checks
ask for and no more.
-/

namespace EventOutbox

/-! ## §1 Parts -/

/-- The options that a pattern switches on and off for what follows. -/
inductive PatternOption where
  | ignoreCase
  | lines
  | dotAll
  | swapGreed
  | unicode
  | carriageReturns
  /-- White space and comments between the parts are passed over. -/
  | spaced
deriving DecidableEq, Repr

/-- The letter of an option. -/
def PatternOption.ofChar? (c : Char) : Option PatternOption :=
  [('i', .ignoreCase), ('m', .lines), ('s', .dotAll), ('U', .swapGreed), ('u', .unicode),
    ('R', .carriageReturns), ('x', .spaced)].lookup c

/-- Options with the state that they are switched to. -/
abbrev PatternSwitches : Type := List (PatternOption × Bool)

/-- One thing that a pattern names, inside brackets or outside of them. -/
inductive PatternAtom where
  | char (c : Char)
  /-- A character by two hexadecimal digits, which is a byte where patterns are about bytes. -/
  | byte (n : Nat)
  /-- Digits, blanks or the characters of words, or everything else. -/
  | shorthand (negated : Bool)
  /-- The characters with some property. -/
  | property
  /-- A place where a word begins or ends, or where none does. -/
  | wordBoundary
  /-- The beginning or the end of the text. -/
  | anchor
deriving DecidableEq, Repr

/-- How the two sides of a class are combined. -/
inductive ClassOperation where
  | intersection
  | difference
  | symmetricDifference
deriving DecidableEq, Repr

/-- What stands between brackets. -/
inductive ClassMembers where
  | atom (a : PatternAtom)
  | range (first last : PatternAtom)
  /-- A class with a name, such as that of the letters of ASCII. -/
  | named (negated : Bool)
  | union (members : List ClassMembers)
  | bracketed (negated : Bool) (members : ClassMembers)
  | combined (op : ClassOperation) (left right : ClassMembers)

/-! ## §2 Patterns -/

/-- A pattern. -/
inductive Pattern where
  | atom (a : PatternAtom)
  | anyChar
  | class_ (negated : Bool) (members : ClassMembers)
  | switches (s : PatternSwitches)
  | repeated (p : Pattern)
  | group (name : Option (List Char)) (s : PatternSwitches) (p : Pattern)
  | sequence (parts : List Pattern)
  | alternatives (branches : List Pattern)

/-- Several members of a class as one. -/
def ClassMembers.ofList : List ClassMembers → ClassMembers
  | [m] => m
  | ms => .union ms

/-- Parts one after the other as one pattern. -/
def Pattern.ofParts : List Pattern → Pattern
  | [p] => p
  | ps => .sequence ps

/-- Branches as one pattern. -/
def Pattern.ofBranches : List Pattern → Pattern
  | [p] => p
  | ps => .alternatives ps

/-- Whether a pattern only switches options, so that it cannot be repeated. -/
def Pattern.isSwitches : Pattern → Bool
  | .switches _ => true
  | _ => false

/-! ## §3 Nesting -/

mutual

/-- How deeply the members of a class are nested. -/
def ClassMembers.depth : ClassMembers → Nat
  | .atom _ | .range _ _ | .named _ | .union [] => 0
  | .union (m :: ms) => 1 + ClassMembers.depths (m :: ms)
  | .bracketed _ m => 1 + m.depth
  | .combined _ a b => 1 + max a.depth b.depth

/-- The greatest depth among members of a class. -/
def ClassMembers.depths : List ClassMembers → Nat
  | [] => 0
  | m :: ms => max m.depth (ClassMembers.depths ms)

end

mutual

/-- How deeply a pattern is nested. -/
def Pattern.depth : Pattern → Nat
  | .atom _ | .anyChar | .switches _ | .sequence [] | .alternatives [] => 0
  | .class_ _ m => 1 + m.depth
  | .repeated p | .group _ _ p => 1 + p.depth
  | .sequence (p :: ps) => 1 + Pattern.depths (p :: ps)
  | .alternatives (p :: ps) => 1 + Pattern.depths (p :: ps)

/-- The greatest depth among patterns. -/
def Pattern.depths : List Pattern → Nat
  | [] => 0
  | p :: ps => max p.depth (Pattern.depths ps)

end

/-! ## §4 Names of groups -/

mutual

/-- The names of the groups in a pattern. -/
def Pattern.groupNames : Pattern → List (List Char)
  | .atom _ | .anyChar | .switches _ | .class_ _ _ => []
  | .repeated p => p.groupNames
  | .group name _ p => name.toList ++ p.groupNames
  | .sequence ps | .alternatives ps => Pattern.allGroupNames ps

/-- The names of the groups in several patterns. -/
def Pattern.allGroupNames : List Pattern → List (List Char)
  | [] => []
  | p :: ps => p.groupNames ++ Pattern.allGroupNames ps

end

end EventOutbox
