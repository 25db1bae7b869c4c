/-!
# Hexadecimal digits

Digits to the base sixteen: written in lower case, read in either case.
-/

namespace EventOutbox.Text

/-- The last digit of a number. -/
def hexDigit (n : Nat) : Fin 16 :=
  Fin.ofNat 16 n

/-- The digit of a value, in lower case. -/
def hexChar (d : Fin 16) : Char :=
  if d.val < 10 then Char.ofNat (48 + d.val) else Char.ofNat (87 + d.val)

/-- The value of a digit in either case. -/
def hexValue? (c : Char) : Option (Fin 16) :=
  if '0' ≤ c && c ≤ '9' then some (hexDigit (c.toNat - 48))
  else if 'a' ≤ c && c ≤ 'f' then some (hexDigit (c.toNat - 87))
  else if 'A' ≤ c && c ≤ 'F' then some (hexDigit (c.toNat - 55))
  else none

/-- The digits of a number, without leading zeros. -/
def hexDigits (n : Nat) : List Char :=
  if n < 16 then [hexChar (hexDigit n)] else hexDigits (n / 16) ++ [hexChar (hexDigit n)]
termination_by n

end EventOutbox.Text
