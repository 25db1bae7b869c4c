import EventOutbox.Json.Decoder
import EventOutbox.Settings.App
import EventOutbox.Text.Lowercase

/-!
# Settings from the environment

Variables whose names begin with `OUTBOX_RELAY__` set values; further pairs of underscores, and
dots, separate the levels, and an index in brackets names an item of a sequence.  Names count in
either case.  All values are texts, which are read as the fields ask: integers in decimal or as
switch words, booleans as switch words.  A sequence gives the fields of a section in their order.
-/

namespace EventOutbox.Settings

open EventOutbox.Text

/-! ## §1 Variables as a tree -/

/-- Values under names and indices, in levels. -/
inductive EnvTree where
  /-- An item of a sequence that is not set. -/
  | nothing
  | value (text : String)
  | section_ (entries : List (String × EnvTree))
  /-- A sequence of some length, with those of its items that are set. -/
  | items (length : Nat) (entries : List (Nat × EnvTree))

/-- The names and values of the environment. -/
abbrev Environment : Type := List (String × String)

/-- One level of the place of a value. -/
inductive EnvStep where
  | name (name : String)
  /-- An item counted from the beginning, or from the end when the index is negative. -/
  | index (index : Int)
deriving DecidableEq, Repr

namespace EnvTree

/-- Set the tree under a name or an index. -/
def put {K : Type} [DecidableEq K] (key : K) (tree : EnvTree) :
    List (K × EnvTree) → List (K × EnvTree)
  | [] => [(key, tree)]
  | (k, t) :: rest => if k = key then (k, tree) :: rest else (k, t) :: put key tree rest

/-- The entries of a section; another tree has none. -/
def entries : EnvTree → List (String × EnvTree)
  | .section_ entries => entries
  | _ => []

/-- The length and the items of a sequence; another tree has none. -/
def sequence : EnvTree → Nat × List (Nat × EnvTree)
  | .items length known => (length, known)
  | _ => (0, [])

/-- The most items that a sequence can have in memory. -/
def mostItems : Nat := 96076792050570581

/-- The place in a sequence that an index stands for, unless it is before the beginning or beyond
what memory holds. -/
def position? (length : Nat) (index : Int) : Option Nat :=
  if 0 ≤ index then if index.toNat < mostItems then some index.toNat else none
  else if index.natAbs ≤ length then some (length - index.natAbs) else none

/-- Set the value at a place, unless an index in it stands for no item.  A level that is of another
kind is replaced. -/
def set? (text : String) : (place : List EnvStep) → EnvTree → Option EnvTree
  | [], _ => some (.value text)
  | .name name :: place, t => do
    let below ← set? text place ((t.entries.lookup name).getD .nothing)
    some (.section_ (put name below t.entries))
  | .index index :: place, t => do
    let (length, known) := t.sequence
    let position ← position? length index
    let below ← set? text place ((known.lookup position).getD .nothing)
    some (.items (max length (position + 1)) (put position below known))

/-- The item at a position of a sequence, if it is long enough. -/
def item? (length : Nat) (known : List (Nat × EnvTree)) (position : Nat) : Option EnvTree :=
  if position < length then some ((known.lookup position).getD .nothing) else none

end EnvTree

/-- The beginning of the names that matter, in lower case. -/
def variableMark : List Char := "outbox_relay__".toList

/-- Pairs of underscores replaced by dots. -/
def dotted : List Char → List Char
  | '_' :: '_' :: cs => '.' :: dotted cs
  | c :: cs => c :: dotted cs
  | [] => []

/-- Whether a character may stand in a name at some level. -/
def isNameChar (c : Char) : Bool :=
  isDigit c || ('a' ≤ c && c ≤ 'z') || ('A' ≤ c && c ≤ 'Z') || c = '_' || c = '-' || c = ' '

/-- What follows blanks and tabs. -/
def dropBlanks (cs : List Char) : List Char :=
  cs.dropWhile fun c => c = ' ' || c = '\t'

/-- Read an index up to its closing bracket. -/
def readIndex? (cs : List Char) : Option (Int × List Char) := do
  let (sign, cs) := (dropBlanks cs).span (· = '-')
  let (digits, rest) := cs.span isDigit
  if digits.isEmpty || 1 < sign.length then none
  else
    match dropBlanks rest, readSigned (sign ++ digits) with
    | ']' :: rest, .ok index => some (index, rest)
    | _, _ => none

/-- Read a name up to a dot, a bracket or the end. -/
def readName? (cs : List Char) : Option (String × List Char) :=
  match cs.span isNameChar with
  | ([], _) => none
  | (name, rest) => some (String.ofList name, rest)

/-- Read the further steps of a place; `fuel` bounds their number. -/
def readSteps? : (fuel : Nat) → List Char → Option (List EnvStep)
  | _, [] => some []
  | 0, _ :: _ => none
  | fuel + 1, '.' :: cs => do
    let (name, rest) ← readName? cs
    let steps ← readSteps? fuel rest
    some (.name name :: steps)
  | fuel + 1, '[' :: cs => do
    let (index, rest) ← readIndex? cs
    let steps ← readSteps? fuel rest
    some (.index index :: steps)
  | _ + 1, _ :: _ => none

/-- The place that a variable sets, if it matters. -/
def placeOf? (variable_ : String) : Option (List EnvStep) :=
  let cs := (lowercase variable_).toList
  if variableMark.isPrefixOf cs then do
    let (name, rest) ← readName? (dotted (cs.drop variableMark.length))
    let steps ← readSteps? (rest.length + 1) rest
    some (.name name :: steps)
  else none

/-- The values that the environment sets, unless an index in it stands for no item. -/
def Environment.tree? (env : Environment) : Option EnvTree :=
  env.foldlM
    (fun t v => match placeOf? v.1 with | some place => t.set? v.2 place | none => some t)
    (.section_ [])

/-! ## §2 Reading values -/

/-- The reasons why the environment does not give settings. -/
inductive EnvError where
  /-- A text that is not of the kind expected for a key. -/
  | kind (text expected key : String)
  /-- A number beyond 32 bits. -/
  | tooLarge (n : Nat) (key : String)
  /-- Something that is no text, which is described, in place of a single value. -/
  | noText (description expected key : String)
  /-- Something in place of a section. -/
  | section_ (description record : String)
  /-- A field that is not set. -/
  | missing (field : String)
  /-- A sequence that is too short for the fields of a section. -/
  | tooFew (found : Nat) (record : String) (total : Nat)
  /-- An index that stands for no item, where loading cannot go on. -/
  | index
deriving DecidableEq, Repr

/-- The wording of an error. -/
def EnvError.message : EnvError → String
  | .kind text expected key =>
    s!"invalid type: string {quote text}, expected {expected} for key `{key}` in the environment"
  | .tooLarge n key =>
    s!"invalid type: 64-bit unsigned integer `{n}`, expected an unsigned 32 bit integer " ++
      s!"for key `{key}`"
  | .noText description expected key =>
    s!"invalid type: {description}, expected {expected} for key `{key}`"
  | .section_ description record => s!"invalid type: {description}, expected struct {record}"
  | .missing field => s!"missing field `{field}`"
  | .tooFew found record total =>
    s!"invalid length {found}, expected struct {record} with {total} elements"
  | .index => "an index stands for no item"

/-- The error of a field together with its name, or a field that is not set. -/
inductive EnvFault where
  | refused (name : String) (error : EnvError)
  | missing (name : String)

/-- Which of two faults is reported, when the first stands before the second in the record. -/
def EnvFault.prefer : EnvFault → EnvFault → EnvFault
  | .refused a e, .refused b f => if b < a then .refused b f else .refused a e
  | .missing _, .refused b f => .refused b f
  | fault, .missing _ => fault

/-- The error of a section with a fault among its fields. -/
def EnvFault.error : EnvFault → EnvError
  | .refused _ e => e
  | .missing name => .missing name

/-- A key below another one. -/
def keyBelow (key name : String) : String :=
  if key = "" then name else s!"{key}.{name}"

/-- Words that switch something on. -/
def onWords : List String := ["true", "on", "yes"]

/-- Words that switch something off. -/
def offWords : List String := ["false", "off", "no"]

/-- Read a number of 64 bits; words that switch something on or off stand for one and zero. -/
def readWordNumber (key text : String) : Except EnvError Nat :=
  let word := lowercase text
  if onWords.contains word then .ok 1
  else if offWords.contains word then .ok 0
  else
    match readUnsigned 18446744073709551615 text.toList with
    | .ok n => .ok n
    | .error _ => .error (.kind text "an integer" key)

/-- Read a switch. -/
def readSwitch (key text : String) : Except EnvError Bool :=
  let word := lowercase text
  if word = "1" || onWords.contains word then .ok true
  else if word = "0" || offWords.contains word then .ok false
  else .error (.kind word "a boolean" key)

/-- What a tree is, in messages. -/
def EnvTree.description : EnvTree → String
  | .nothing => "unit value"
  | .value text => s!"string {quote text}"
  | .section_ _ => "map"
  | .items _ _ => "sequence"

/-- The text of a tree that has to be a single value. -/
def EnvTree.text (key expected : String) : EnvTree → Except EnvError String
  | .value text => .ok text
  | t => .error (.noText t.description expected key)

mutual

/-- Read a value of a shape.  Settings consist of texts, numbers without sign, switches and
sections; no variable gives a value of another shape.  -/
def decodeEnv : (s : Shape) → (key : String) → EnvTree → Except EnvError s.Val
  | .text, key, t => t.text key "a string"
  | .u32, key, t => do
    let n ← readWordNumber key (← t.text key "an integer")
    if n < UInt32.size then .ok (UInt32.ofNat n) else .error (.tooLarge n key)
  | .u64, key, t => do
    let n ← readWordNumber key (← t.text key "an integer")
    .ok (UInt64.ofNat n)
  | .bool, key, t => do readSwitch key (← t.text key "a boolean")
  | .option s, key, t =>
    match t with
    | .nothing => .ok none
    | _ => (decodeEnv s key t).map some
  | .record name fs, key, t =>
    match t with
    | .section_ entries =>
      (decodeEnvFields fs key fun n => entries.lookup n).mapError EnvFault.error
    | .items length items => decodeEnvItems fs name fs.count key 0 (EnvTree.item? length items)
    | _ => .error (.section_ t.description name)
  | .uuid, key, t | .instant, key, t | .i64, key, t | .any, key, t | .list _, key, t =>
    .error (.noText t.description "a string" key)

/-- Read the fields of a section, given by its look-up function. -/
def decodeEnvFields :
    (fs : Fields) → (key : String) → (String → Option EnvTree) → Except EnvFault fs.Val
  | .nil, _, _ => .ok ()
  | .cons name .required s rest, key, find =>
    let head := match find name with
      | some t => (decodeEnv s (keyBelow key name) t).mapError (EnvFault.refused name)
      | none =>
        match s.absent? with
        | some v => .ok v
        | none => .error (.missing name)
    match head, decodeEnvFields rest key find with
    | .ok v, .ok vs => .ok (v, vs)
    | .error e, .ok _ => .error e
    | .ok _, .error f => .error f
    | .error e, .error f => .error (e.prefer f)
  | .cons name .defaulted s rest, key, find =>
    let head := match find name with
      | some t => ((decodeEnv s (keyBelow key name) t).map some).mapError (EnvFault.refused name)
      | none => .ok none
    match head, decodeEnvFields rest key find with
    | .ok v, .ok vs => .ok (v, vs)
    | .error e, .ok _ => .error e
    | .ok _, .error f => .error f
    | .error e, .error f => .error (e.prefer f)

/-- Read the fields of a section from the items of a sequence, the first `done` of which are used
already.  Items beyond the fields do not matter. -/
def decodeEnvItems :
    (fs : Fields) → (record : String) → (total : Nat) → (key : String) → (done : Nat) →
      (Nat → Option EnvTree) → Except EnvError fs.Val
  | .nil, _, _, _, _, _ => .ok ()
  | .cons _ .required s rest, record, total, key, done, item? =>
    match item? done with
    | none => .error (.tooFew done record total)
    | some t => do
      let v ← decodeEnv s s!"{key}[{done}]" t
      let vs ← decodeEnvItems rest record total key (done + 1) item?
      .ok (v, vs)
  | .cons _ .defaulted s rest, record, total, key, done, item? => do
    let v ← match item? done with
      | none => .ok none
      | some t => (decodeEnv s s!"{key}[{done}]" t).map some
    let vs ← decodeEnvItems rest record total key (done + 1) item?
    .ok (v, vs)

end

/-! ## §3 Loading -/

/-- Why settings cannot be loaded. -/
inductive LoadError where
  | unreadable (error : EnvError)
  | invalid (problem : Problem)
deriving DecidableEq, Repr

/-- The wording of an error. -/
def LoadError.message : LoadError → String
  | .unreadable error => s!"Configuration loading failed: {error.message}"
  | .invalid problem => s!"Validation failed: {problem.message}"

/-- Load settings from the environment. -/
def App.load (env : Environment) : Except LoadError App :=
  match env.tree? with
  | none => .error (.unreadable .index)
  | some t =>
    match decodeEnv App.shape "" t with
    | .ok v => .ok (App.ofVal v)
    | .error e => .error (.unreadable e)

/-- Load settings from the environment and validate them. -/
def App.loadValidated (env : Environment) : Except LoadError App :=
  match App.load env with
  | .error e => .error e
  | .ok app =>
    match app.problem? with
    | some p => .error (.invalid p)
    | none => .ok app

end EventOutbox.Settings
