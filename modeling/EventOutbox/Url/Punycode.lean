/-!
# Punycode

The form in which a label of a domain name with characters beyond ASCII is written in ASCII.  The
characters of ASCII stand in front of the last hyphen.  Digits to the base 36 behind it tell, one
number for each further character, how far the pair of code point and place moves on; the weights of
the digits adapt to the numbers seen so far.
-/

namespace EventOutbox.Url.Punycode

/-- The value of a digit. -/
def digit? (c : Char) : Option Nat :=
  if 'a' ≤ c && c ≤ 'z' then some (c.toNat - 97)
  else if 'A' ≤ c && c ≤ 'Z' then some (c.toNat - 65)
  else if '0' ≤ c && c ≤ '9' then some (c.toNat - 22)
  else none

/-- The value from which on a digit is followed by another one, for the digit with weight number
`k`. -/
def threshold (bias k : Nat) : Nat :=
  if k ≤ bias then 1 else if bias + 26 ≤ k then 26 else k - bias

/-- Divide a number until it is small, and count the digits that takes. -/
def shrink (n k : Nat) : Nat × Nat :=
  if 455 < n then shrink (n / 35) (k + 36) else (n, k)
termination_by n

/-- The bias after a number `delta`, when `count` characters are known. -/
def adapt (delta count : Nat) (first : Bool) : Nat :=
  let scaled := if first then delta / 700 else delta / 2
  let (rest, k) := shrink (scaled + scaled / count) 0
  k + 36 * rest / (rest + 38)

/-- Where reading has arrived. -/
structure Position where
  /-- The characters known so far. -/
  chars : List Char
  codePoint : Nat := 128
  /-- The place of the next character. -/
  place : Nat := 0
  bias : Nat := 72

/-- Put the character in that a number `delta` moves on to. -/
def Position.insert? (p : Position) (delta : Nat) : Option Position :=
  let count := p.chars.length + 1
  let codePoint := p.codePoint + (p.place + delta) / count
  let place := (p.place + delta) % count
  if codePoint.isValidChar then
    some
      { chars := p.chars.take place ++ Char.ofNat codePoint :: p.chars.drop place
        codePoint
        place := place + 1
        bias := adapt delta count (p.place = 0) }
  else none

/-- Read digits, given the number that those read so far stand for, the weight of the next one and
the number of its weight; these are nothing between two numbers. -/
def readDigits (p : Position) : (number : Option (Nat × Nat × Nat)) → List Char →
    Option (List Char)
  | none, [] => some p.chars
  | some _, [] => none
  | number, c :: cs => do
    let (delta, weight, k) := number.getD (0, 1, 36)
    let d ← digit? c
    let delta := delta + d * weight
    let t := threshold p.bias k
    if d < t then
      let p ← p.insert? delta
      readDigits p none cs
    else readDigits p (some (delta, weight * (36 - t), k + 36)) cs

/-- The label that a text stands for.  A hyphen at the beginning separates nothing. -/
def decode? (cs : List Char) : Option (List Char) :=
  match cs.reverse.span (· != '-') with
  | (digits, _ :: c :: plain) => readDigits ⟨(c :: plain).reverse, 128, 0, 72⟩ none digits.reverse
  | _ => readDigits ⟨[], 128, 0, 72⟩ none cs

end EventOutbox.Url.Punycode
