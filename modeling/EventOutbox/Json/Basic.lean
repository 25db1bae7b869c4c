import EventOutbox.Binary64

/-!
# JSON values

A JSON value.  Integers and floating-point numbers are apart, and an object is a list of entries in
which every name occurs once; their order carries no meaning.
-/

namespace EventOutbox

/-! ## §1 The type -/

/-- A JSON value. -/
inductive Json where
  | null
  | bool (b : Bool)
  | integer (n : Int)
  | real (x : Binary64)
  | text (s : String)
  | array (items : List Json)
  | object (entries : List (String × Json))
deriving Inhabited

namespace Json

/-! ## §2 Equality -/

mutual

/-- Decide whether two values are equal. -/
def decEq : (a b : Json) → Decidable (a = b)
  | .null, .null => isTrue rfl
  | .bool a, .bool b =>
    if h : a = b then isTrue (h ▸ rfl) else isFalse fun e => h (Json.bool.inj e)
  | .integer a, .integer b =>
    if h : a = b then isTrue (h ▸ rfl) else isFalse fun e => h (Json.integer.inj e)
  | .real a, .real b =>
    if h : a = b then isTrue (h ▸ rfl) else isFalse fun e => h (Json.real.inj e)
  | .text a, .text b =>
    if h : a = b then isTrue (h ▸ rfl) else isFalse fun e => h (Json.text.inj e)
  | .array a, .array b =>
    match decEqItems a b with
    | isTrue h => isTrue (h ▸ rfl)
    | isFalse h => isFalse fun e => h (Json.array.inj e)
  | .object a, .object b =>
    match decEqEntries a b with
    | isTrue h => isTrue (h ▸ rfl)
    | isFalse h => isFalse fun e => h (Json.object.inj e)
  | .null, .bool _ | .null, .integer _ | .null, .real _ | .null, .text _ | .null, .array _
  | .null, .object _ => isFalse nofun
  | .bool _, .null | .bool _, .integer _ | .bool _, .real _ | .bool _, .text _ | .bool _, .array _
  | .bool _, .object _ => isFalse nofun
  | .integer _, .null | .integer _, .bool _ | .integer _, .real _ | .integer _, .text _
  | .integer _, .array _ | .integer _, .object _ => isFalse nofun
  | .real _, .null | .real _, .bool _ | .real _, .integer _ | .real _, .text _ | .real _, .array _
  | .real _, .object _ => isFalse nofun
  | .text _, .null | .text _, .bool _ | .text _, .integer _ | .text _, .real _ | .text _, .array _
  | .text _, .object _ => isFalse nofun
  | .array _, .null | .array _, .bool _ | .array _, .integer _ | .array _, .real _
  | .array _, .text _ | .array _, .object _ => isFalse nofun
  | .object _, .null | .object _, .bool _ | .object _, .integer _ | .object _, .real _
  | .object _, .text _ | .object _, .array _ => isFalse nofun

/-- Decide whether two lists of values are equal. -/
def decEqItems : (a b : List Json) → Decidable (a = b)
  | [], [] => isTrue rfl
  | [], _ :: _ => isFalse nofun
  | _ :: _, [] => isFalse nofun
  | a :: as, b :: bs =>
    match decEq a b, decEqItems as bs with
    | isTrue h, isTrue hs => isTrue (h ▸ hs ▸ rfl)
    | isFalse h, _ => isFalse fun e => h (List.cons.inj e).1
    | _, isFalse hs => isFalse fun e => hs (List.cons.inj e).2

/-- Decide whether two lists of entries are equal. -/
def decEqEntries : (a b : List (String × Json)) → Decidable (a = b)
  | [], [] => isTrue rfl
  | [], _ :: _ => isFalse nofun
  | _ :: _, [] => isFalse nofun
  | (k, a) :: as, (l, b) :: bs =>
    if hk : k = l then
      match decEq a b, decEqEntries as bs with
      | isTrue h, isTrue hs => isTrue (hk ▸ h ▸ hs ▸ rfl)
      | isFalse h, _ => isFalse fun e => h (Prod.mk.inj (List.cons.inj e).1).2
      | _, isFalse hs => isFalse fun e => hs (List.cons.inj e).2
    else isFalse fun e => hk (Prod.mk.inj (List.cons.inj e).1).1

end

instance : DecidableEq Json := decEq

/-! ## §3 Objects -/

/-- The value under a name. -/
def find? (entries : List (String × Json)) (name : String) : Option Json :=
  entries.lookup name

/-- Set the value under a name; an earlier value is replaced in its place. -/
def put (name : String) (value : Json) : List (String × Json) → List (String × Json)
  | [] => [(name, value)]
  | (k, v) :: rest => if k = name then (k, value) :: rest else (k, v) :: put name value rest

/-- The value under a name of an object; `none` for a value of another kind. -/
def get? (j : Json) (name : String) : Option Json :=
  match j with
  | .object entries => find? entries name
  | _ => none

/-- The null value for nothing. -/
def ofOption {α : Type} (f : α → Json) : Option α → Json
  | some a => f a
  | none => .null

end Json

end EventOutbox
