import EventOutbox.Pattern.Flaw
import EventOutbox.Text.Decimal

/-!
# Log filters

A log filter is a list of directives with commas between them.  A directive names a target, a span
with a field, and a level, as in `target[span{field=value}]=level`; every part may be left out.  The
value of a field is a switch, a number or a pattern.  Only the form is checked here.  Positions in a
directive are found in its trimmed text and applied to the text as it stands, so white space in
front shifts what is cut out.
-/

namespace EventOutbox.Settings.LogFilter

open EventOutbox.Text

/-! ## §1 Problems -/

/-- What is wrong with a log filter. -/
inductive Problem where
  | directive
  | level
  /-- The value of a field is a pattern with a flaw. -/
  | field (flaw : PatternFlaw)
  /-- A position falls inside a character, where checking cannot go on. -/
  | position
deriving DecidableEq, Repr

/-- The wording of a problem. -/
def Problem.message : Problem → String
  | .directive => "invalid filter directive"
  | .level =>
    "error parsing level filter: expected one of \"off\", \"error\", \"warn\", \"info\", " ++
      "\"debug\", \"trace\", or a number 0-5"
  | .field flaw => s!"invalid field filter: {flaw.message}"
  | .position => "a position falls inside a character"

/-! ## §2 Levels -/

/-- The names of the levels. -/
def levelNames : List String := ["off", "error", "warn", "info", "debug", "trace"]

/-- Whether a text names a level, by name in either case or by number. -/
def isLevel (cs : List Char) : Bool :=
  levelNames.contains (String.ofList (cs.map Char.toLower)) ||
    match readUnsigned 18446744073709551615 cs with
    | .ok n => n ≤ 5
    | .error _ => false

/-! ## §3 Fields -/

/-- Whether a text is a number that is not whole, or too large for a whole one: digits, a point
among them or at either end, and a power of ten. -/
def isDecimalNumber (cs : List Char) : Bool :=
  let (whole, rest) := cs.span isDigit
  let (fraction, rest) := match rest with
    | '.' :: rest => rest.span isDigit
    | _ => ([], rest)
  let exponent := match rest with
    | e :: '+' :: ds | e :: '-' :: ds => (e = 'e' || e = 'E') && (readDecimal? ds).isSome
    | e :: ds => (e = 'e' || e = 'E') && (readDecimal? ds).isSome
    | [] => true
  !(whole.isEmpty && fraction.isEmpty) && exponent

/-- The words for values that are no numbers or beyond all of them. -/
def limitWords : List String := ["inf", "infinity", "nan"]

/-- Whether a text is a number with an optional sign. -/
def isNumber (cs : List Char) : Bool :=
  let magnitude := match cs with
    | '+' :: rest | '-' :: rest => rest
    | _ => cs
  isDecimalNumber magnitude || limitWords.contains (String.ofList (magnitude.map Char.toLower))

/-- Check a field, whose value stands between the first two equals signs.  The words of a switch
are patterns as well. -/
def checkField (field : List Char) : Except Problem Unit :=
  match pieces '=' field with
  | _ :: value :: _ =>
    if isNumber value then .ok ()
    else
      match Pattern.flaw? value with
      | some flaw => .error (.field flaw)
      | none => .ok ()
  | _ => .ok ()

/-! ## §4 Directives -/

/-- How far a directive has been read; positions are in bytes. -/
inductive State where
  | start
  | levelOrTarget (start : Nat)
  | span (start : Nat)
  | field (start : Nat)
  | fields
  | target
  | level (start : Nat)

/-- The rest of a text from a position in bytes on, unless that falls inside a character. -/
def dropBytes : Nat → List Char → Except Problem (List Char)
  | 0, cs => .ok cs
  | _ + 1, [] => .error .position
  | n + 1, c :: cs =>
    if c.utf8Size ≤ n + 1 then dropBytes (n + 1 - c.utf8Size) cs else .error .position
termination_by _ cs => cs.length

/-- The beginning of a text up to a position in bytes, unless that falls inside a character. -/
def takeBytes : Nat → List Char → Except Problem (List Char)
  | 0, _ => .ok []
  | _ + 1, [] => .error .position
  | n + 1, c :: cs =>
    if c.utf8Size ≤ n + 1 then (takeBytes (n + 1 - c.utf8Size) cs).map (c :: ·)
    else .error .position
termination_by _ cs => cs.length

/-- The part of a text between two positions in bytes. -/
def sliceBytes (text : List Char) (start stop : Nat) : Except Problem (List Char) := do
  takeBytes (stop - start) (← dropBytes start text)

/-- Check that a text can be cut at a position in bytes. -/
def cutAt (text : List Char) (position : Nat) : Except Problem Unit :=
  (dropBytes position text).map fun _ => ()

/-- Read one character of a directive.  `text` is the directive as it stands and `i` the position of
the character in the trimmed text. -/
def advance (text : List Char) (state : State) (i : Nat) (c : Char) : Except Problem State :=
  match state with
  | .start =>
    if c = '[' then .ok (.span (i + 1))
    else if c = '-' || c = ':' || c = '_' || isAlphanumeric c then .ok (.levelOrTarget i)
    else .error .directive
  | .levelOrTarget _ =>
    if c = '=' then (cutAt text i).map fun _ => .level (i + 1)
    else if c = '[' then (cutAt text i).map fun _ => .span (i + 1)
    else .ok state
  | .span start =>
    if c = ']' then do
      cutAt text start
      cutAt text i
      .ok .target
    else if c = '\x7b' then do
      cutAt text start
      cutAt text i
      .ok (.field (i + 1))
    else .ok state
  | .field start =>
    if c = '\x7d' then do
      let field ← sliceBytes text start i
      if field.isEmpty then .error .directive
      checkField field
      .ok .fields
    else .ok state
  | .fields => if c = ']' then .ok .target else .error .directive
  | .target => if c = '=' then .ok (.level (i + 1)) else .error .directive
  | .level _ => .ok state

/-- Read the characters of a directive. -/
def advanceAll (text : List Char) (state : State) (i : Nat) : List Char → Except Problem State
  | [] => .ok state
  | c :: cs => do
    let state ← advance text state i c
    advanceAll text state (i + c.utf8Size) cs

/-- Check one directive. -/
def checkDirective (text : List Char) : Except Problem Unit := do
  match ← advanceAll text .start 0 (trimChars text) with
  | .levelOrTarget start => cutAt text start
  | .level start =>
    let level ← dropBytes start text
    if level.isEmpty || isLevel level then .ok () else .error .level
  | .target => .ok ()
  | .start | .span _ | .field _ | .fields => .error .directive

/-- Check directives one after the other. -/
def checkDirectives : List (List Char) → Except Problem Unit
  | [] => .ok ()
  | d :: ds => do
    checkDirective d
    checkDirectives ds

/-- What is wrong with a log filter, if anything is. -/
def problem? (filter : String) : Option Problem :=
  match checkDirectives ((pieces ',' filter.toList).filter fun d => !d.isEmpty) with
  | .ok () => none
  | .error e => some e

end EventOutbox.Settings.LogFilter
