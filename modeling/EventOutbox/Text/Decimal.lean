/-!
# Decimal digits

Natural numbers as decimal digits: without leading zeros, in a fixed width, and back.
-/

namespace EventOutbox.Text

/-! ## §1 Digits -/

/-- Whether a character is one of the ten ASCII digits. -/
def isDigit (c : Char) : Bool :=
  '0' ≤ c && c ≤ '9'

/-- The value of a decimal digit. -/
def digitValue (c : Char) : Nat :=
  c.toNat - 48

/-- The digit of a value below ten. -/
def digitChar (n : Nat) : Char :=
  Char.ofNat (48 + n)

/-! ## §2 Writing -/

/-- The decimal digits of a number, without leading zeros. -/
def decimal (n : Nat) : List Char :=
  if n < 10 then [digitChar n] else decimal (n / 10) ++ [digitChar (n % 10)]
termination_by n

/-- The last `width` decimal digits of a number, with leading zeros. -/
def fixedDecimal : (width : Nat) → Nat → List Char
  | 0, _ => []
  | width + 1, n => fixedDecimal width (n / 10) ++ [digitChar (n % 10)]

/-- The decimal digits of a number, with leading zeros up to a least width. -/
def paddedDecimal (width n : Nat) : List Char :=
  let ds := decimal n
  List.replicate (width - ds.length) '0' ++ ds

/-! ## §3 Reading -/

/-- The number that a list of digits stands for. -/
def digitsValue (ds : List Char) : Nat :=
  ds.foldl (fun n c => 10 * n + digitValue c) 0

/-- Read a text that consists of digits only. -/
def readDecimal? (cs : List Char) : Option Nat :=
  if !cs.isEmpty && cs.all isDigit then some (digitsValue cs) else none

/-! ## §4 Reading numbers of a fixed width -/

/-- The reasons why a text is no number of a given width. -/
inductive NumberProblem where
  | empty
  | strayCharacter
  | tooLarge
  | tooSmall
deriving DecidableEq, Repr

/-- The wording of a problem. -/
def NumberProblem.message : NumberProblem → String
  | .empty => "cannot parse integer from empty string"
  | .strayCharacter => "invalid digit found in string"
  | .tooLarge => "number too large to fit in target type"
  | .tooSmall => "number too small to fit in target type"

/-- Append digits to a number that stays at or below a bound. -/
def boundedDigits (most : Nat) (tooFar : NumberProblem) :
    Nat → List Char → Except NumberProblem Nat
  | n, [] => .ok n
  | n, c :: cs =>
    if !isDigit c then .error .strayCharacter
    else
      let m := 10 * n + digitValue c
      if m ≤ most then boundedDigits most tooFar m cs else .error tooFar

/-- Read a number from zero to a bound, with an optional plus sign. -/
def readUnsigned (most : Nat) : List Char → Except NumberProblem Nat
  | [] => .error .empty
  | ['+'] => .error .strayCharacter
  | '+' :: cs => boundedDigits most .tooLarge 0 cs
  | cs => boundedDigits most .tooLarge 0 cs

/-- Read a number of 64 bits with an optional sign. -/
def readSigned : List Char → Except NumberProblem Int
  | [] => .error .empty
  | ['+'] | ['-'] => .error .strayCharacter
  | '+' :: cs => (boundedDigits 9223372036854775807 .tooLarge 0 cs).map Int.ofNat
  | '-' :: cs => (boundedDigits 9223372036854775808 .tooSmall 0 cs).map fun n => -(n : Int)
  | cs => (boundedDigits 9223372036854775807 .tooLarge 0 cs).map Int.ofNat

end EventOutbox.Text
