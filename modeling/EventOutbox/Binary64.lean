import EventOutbox.Text.Decimal

/-!
# Floating-point numbers

Numbers in the 64-bit binary format, kept by their bits.  A number is written with the fewest
decimal digits that read back as the same number, the nearest of those if there are several.  A
decimal is read in three rounded steps: its digits as far as they fit 64 bits, then one or more
powers of ten.
-/

namespace EventOutbox

/-- A number in the 64-bit binary floating-point format. -/
structure Binary64 where
  bits : UInt64
deriving DecidableEq, Repr

namespace Binary64

open EventOutbox.Text

/-! ## §1 The parts of a number -/

/-- Whether the sign bit is set. -/
def isNegative (x : Binary64) : Bool :=
  Nat.pow 2 63 ≤ x.bits.toNat

/-- The eleven bits of the exponent. -/
def exponentField (x : Binary64) : Nat :=
  x.bits.toNat / Nat.pow 2 52 % Nat.pow 2 11

/-- The fifty-two bits after the point. -/
def fractionField (x : Binary64) : Nat :=
  x.bits.toNat % Nat.pow 2 52

/-- The integer `m` of the magnitude `m * 2 ^ e`. -/
def mantissa (x : Binary64) : Nat :=
  if x.exponentField = 0 then x.fractionField else Nat.pow 2 52 + x.fractionField

/-- The exponent `e` of the magnitude `m * 2 ^ e`. -/
def exponent (x : Binary64) : Int :=
  (max x.exponentField 1 : Nat) - 1075

/-! ## §2 The shortest decimal -/

/-- The magnitudes that read as one number, in units of a quarter of its last place over a common
denominator: the number is `middle / denominator`, its neighbours' midpoints `low` and `high`. -/
structure Interval where
  low : Nat
  middle : Nat
  high : Nat
  denominator : Nat
  closed : Bool

/-- The interval of a magnitude after division by `10 ^ k`.  Just above a power of two the gap below
is half the gap above. -/
def interval (x : Binary64) (k : Int) : Interval :=
  let q := x.exponent - 2
  let unit := Nat.pow 2 q.toNat * Nat.pow 10 (-k).toNat
  let below := if x.fractionField = 0 ∧ 1 < x.exponentField then 1 else 2
  { low := (4 * x.mantissa - below) * unit
    middle := 4 * x.mantissa * unit
    high := (4 * x.mantissa + 2) * unit
    denominator := Nat.pow 2 (-q).toNat * Nat.pow 10 k.toNat
    closed := x.mantissa % 2 == 0 }

/-- Whether a whole number lies in the interval. -/
def Interval.holds (i : Interval) (d : Nat) : Bool :=
  let v := d * i.denominator
  if i.closed then i.low ≤ v && v ≤ i.high else i.low < v && v < i.high

/-- The whole number of the interval next to its middle, if one of the two neighbours of the middle
lies in it. -/
def Interval.nearest? (i : Interval) : Option Nat :=
  let d := i.middle / i.denominator
  let rest := i.middle % i.denominator
  match i.holds d, i.holds (d + 1) with
  | true, true =>
    if 2 * rest < i.denominator then some d
    else if i.denominator < 2 * rest then some (d + 1)
    else some (if d % 2 = 0 then d else d + 1)
  | true, false => some d
  | false, true => some (d + 1)
  | false, false => none

/-- The position of the leading decimal digit of a magnitude that is not zero. -/
def leadingPosition (x : Binary64) : Int :=
  let i := x.interval (-400)
  ((decimal (i.middle / i.denominator)).length : Int) - 401

/-- Search the decimal grids from `digits` digits on, with `grids` grids left. -/
def searchDigits (x : Binary64) (position : Int) : (grids digits : Nat) → Nat × Int
  | 0, _ => (0, 0)
  | grids + 1, digits =>
    let k := position - digits + 1
    match (x.interval k).nearest? with
    | some d => (d, k)
    | none => searchDigits x position grids (digits + 1)

/-- Drop the zeros at the end of a decimal `d * 10 ^ k`. -/
def dropZeros : (fuel d : Nat) → (k : Int) → Nat × Int
  | 0, d, k => (d, k)
  | fuel + 1, d, k => if d % 10 = 0 ∧ d ≠ 0 then dropZeros fuel (d / 10) (k + 1) else (d, k)

/-- The shortest decimal `d * 10 ^ k` of a magnitude. -/
def shortest (x : Binary64) : Nat × Int :=
  if x.mantissa = 0 then (0, 0)
  else
    let (d, k) := searchDigits x x.leadingPosition 17 1
    dropZeros 20 d k

/-! ## §3 Writing -/

/-- The text of a number.  It is positional while its leading digit stands between the fifth place
after the point and the sixteenth before it, and then always shows a point. -/
def text (x : Binary64) : String :=
  let (d, k) := x.shortest
  let ds := decimal d
  let position : Int := ds.length + k - 1
  let zeros (n : Int) : List Char := List.replicate n.toNat '0'
  let body :=
    if position < -5 || 15 < position then
      let tail := if ds.length = 1 then [] else '.' :: ds.drop 1
      ds.take 1 ++ tail ++ ['e', if position < 0 then '-' else '+'] ++ decimal position.natAbs
    else if 0 ≤ k then ds ++ zeros k ++ ['.', '0']
    else if 0 ≤ position then
      ds.take (position.toNat + 1) ++ '.' :: ds.drop (position.toNat + 1)
    else ['0', '.'] ++ zeros (-1 - position) ++ ds
  String.ofList (if x.isNegative then '-' :: body else body)

/-! ## §4 Reading -/

/-- Multiply or divide by a power of ten, in steps of at most 308 places. -/
def scale : (fuel : Nat) → Float → Int → Option Float
  | 0, _, _ => none
  | fuel + 1, f, e =>
    if e.natAbs ≤ 308 then
      let power := Float.ofScientific 1 false e.natAbs
      if 0 ≤ e then
        let r := f * power
        if r.isInf then none else some r
      else some (f / power)
    else if f == 0 then some f
    else if 0 ≤ e then none
    else scale fuel (f / Float.ofScientific 1 false 308) (e + 308)

/-- The number with a given sign and the magnitude `significand * 10 ^ exponent`, unless it is too
large. -/
def ofDecimal? (negative : Bool) (significand : Nat) (exponent : Int) : Option Binary64 :=
  let start := Float.ofScientific significand false 0
  let steps := min (exponent.natAbs / 308 + 2) 5
  (scale steps start (max exponent (-1500))).map fun f => ⟨(if negative then -f else f).toBits⟩

end Binary64

end EventOutbox
