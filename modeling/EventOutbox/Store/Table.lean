/-!
# Tables

A finite table from keys to rows, in the order in which the keys were first filed.
-/

namespace EventOutbox

/-- Rows filed under keys. -/
structure Table (κ ρ : Type) where
  rows : List (κ × ρ) := []

namespace Table

variable {κ ρ : Type} [DecidableEq κ]

/-- The row under a key. -/
def find? (t : Table κ ρ) (k : κ) : Option ρ :=
  (t.rows.find? fun r => r.1 = k).map Prod.snd

/-- Whether a key has a row. -/
def contains (t : Table κ ρ) (k : κ) : Bool :=
  (t.find? k).isSome

/-- The rows with the row under a key replaced, or added at the end. -/
def putRow (k : κ) (r : ρ) : List (κ × ρ) → List (κ × ρ)
  | [] => [(k, r)]
  | (l, s) :: rest => if l = k then (k, r) :: rest else (l, s) :: putRow k r rest

/-- File a row under a key. -/
def put (t : Table κ ρ) (k : κ) (r : ρ) : Table κ ρ :=
  ⟨putRow k r t.rows⟩

/-- All rows. -/
def values (t : Table κ ρ) : List ρ :=
  t.rows.map Prod.snd

end Table

end EventOutbox
