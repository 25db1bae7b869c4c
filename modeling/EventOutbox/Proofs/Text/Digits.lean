import EventOutbox.Text.Blank
import EventOutbox.Text.Decimal
import EventOutbox.Text.Hexadecimal
import Mathlib.Algebra.GroupWithZero.Nat
import Mathlib.Data.List.Basic
import Mathlib.Data.List.Induction

/-!
# Digits that are read back

A number that is written in decimal digits is the number that the digits stand for, whether they are
as many as it needs, padded with zeros or of a fixed width.  The digits of a number are told apart
from everything that may follow them, and none of them is blank.

## Main statements

- `digitsValue_fixedDecimal`, `digitsValue_paddedDecimal`
- `readUnsigned_decimal`
- `hexValue?_hexChar`
-/

namespace EventOutbox.Text

/-! ## §1 Single digits -/

theorem isDigit_digitChar {n : Nat} (h : n < 10) : isDigit (digitChar n) = true := by
  have hall : ∀ d < 10, isDigit (digitChar d) = true := by decide
  exact hall n h

theorem digitValue_digitChar {n : Nat} (h : n < 10) : digitValue (digitChar n) = n := by
  have hall : ∀ d < 10, digitValue (digitChar d) = d := by decide
  exact hall n h

theorem hexValue?_hexChar (d : Fin 16) : hexValue? (hexChar d) = some d := by
  revert d
  decide

theorem isDigit_iff {c : Char} : isDigit c = true ↔ 48 ≤ c.toNat ∧ c.toNat ≤ 57 := by
  rw [isDigit, Bool.and_eq_true, decide_eq_true_iff, decide_eq_true_iff]
  exact Iff.rfl

/-- A digit is not white space. -/
theorem isBlankChar_of_isDigit {c : Char} (h : isDigit c = true) : isBlankChar c = false := by
  obtain ⟨hleast, hmost⟩ := isDigit_iff.mp h
  rw [isBlankChar, inRanges, List.any_eq_false]
  intro r hr
  -- the ranges lie below the digits or above them
  have hapart : ∀ r ∈ blankRanges, r.2 < 48 ∨ 57 < r.1 := by decide
  have hside := hapart r hr
  simp only [Bool.and_eq_true, decide_eq_true_eq]
  omega

/-! ## §2 Lists of digits -/

@[simp] theorem digitsValue_nil : digitsValue [] = 0 := rfl

@[simp] theorem digitsValue_concat (ds : List Char) (c : Char) :
    digitsValue (ds ++ [c]) = 10 * digitsValue ds + digitValue c := by
  simp only [digitsValue, List.foldl_append, List.foldl_cons, List.foldl_nil]

/-- Leading zeros do not count. -/
theorem digitsValue_replicate_zero (k : Nat) (ds : List Char) :
    digitsValue (List.replicate k '0' ++ ds) = digitsValue ds := by
  induction k with
  | zero => rfl
  | succ k ih => exact ih

theorem digitValue_lt {c : Char} (h : isDigit c = true) : digitValue c < 10 := by
  obtain ⟨-, hmost⟩ := isDigit_iff.mp h
  rw [digitValue]
  omega

/-- So many digits stand for a number below this power of ten. -/
theorem digitsValue_lt {ds : List Char} (hdigits : ∀ c ∈ ds, isDigit c = true) :
    digitsValue ds < 10 ^ ds.length := by
  -- the value is built up from the front, so the induction takes the last digit off
  induction ds using List.reverseRecOn with
  | nil => decide
  | append_singleton ds c ih =>
    have hinit := ih fun d hd => hdigits d (List.mem_append_left _ hd)
    have hlast := digitValue_lt (hdigits c (by simp))
    rw [digitsValue_concat, List.length_append, List.length_singleton, Nat.pow_succ]
    omega

/-! ## §3 A fixed width -/

@[simp] theorem length_fixedDecimal (width n : Nat) : (fixedDecimal width n).length = width := by
  induction width generalizing n with
  | zero => rfl
  | succ width ih => simp only [fixedDecimal, List.length_append, ih, List.length_singleton]

theorem isDigit_of_mem_fixedDecimal {width n : Nat} {c : Char} (h : c ∈ fixedDecimal width n) :
    isDigit c = true := by
  induction width generalizing n with
  | zero => simp [fixedDecimal] at h
  | succ width ih =>
    rw [fixedDecimal, List.mem_append, List.mem_singleton] at h
    rcases h with h | rfl
    · exact ih h
    · exact isDigit_digitChar (Nat.mod_lt n (by decide))

/-- A number is read back from a fixed width when it has no more digits than that. -/
theorem digitsValue_fixedDecimal {width n : Nat} (h : n < 10 ^ width) :
    digitsValue (fixedDecimal width n) = n := by
  induction width generalizing n with
  | zero =>
    rw [Nat.pow_zero] at h
    rw [fixedDecimal, digitsValue_nil]
    omega
  -- the remainder is the last digit, and the other places hold the quotient
  | succ width ih =>
    rw [Nat.pow_succ] at h
    have hlast : n % 10 < 10 := Nat.mod_lt n (by decide)
    rw [fixedDecimal, digitsValue_concat, ih (by omega), digitValue_digitChar hlast]
    omega

/-! ## §4 As many digits as it takes -/

theorem isDigit_of_mem_decimal {n : Nat} {c : Char} (h : c ∈ decimal n) : isDigit c = true := by
  induction n using decimal.induct with
  | case1 n hsmall =>
    rw [decimal, if_pos hsmall, List.mem_singleton] at h
    exact h ▸ isDigit_digitChar hsmall
  | case2 n hlarge ih =>
    rw [decimal, if_neg hlarge, List.mem_append, List.mem_singleton] at h
    rcases h with h | rfl
    · exact ih h
    · exact isDigit_digitChar (Nat.mod_lt n (by decide))

/-- A number is the value of its digits. -/
theorem digitsValue_decimal (n : Nat) : digitsValue (decimal n) = n := by
  induction n using decimal.induct with
  | case1 n hsmall =>
    rw [decimal, if_pos hsmall, ← List.nil_append [digitChar n], digitsValue_concat,
      digitsValue_nil, digitValue_digitChar hsmall]
    omega
  -- the digits of the quotient stand before the last one, and have its value by the induction
  | case2 n hlarge ih =>
    have hlast : n % 10 < 10 := Nat.mod_lt n (by decide)
    rw [decimal, if_neg hlarge, digitsValue_concat, ih, digitValue_digitChar hlast]
    omega

theorem decimal_ne_nil (n : Nat) : decimal n ≠ [] := by
  rw [decimal]
  split <;> simp

theorem isDigit_of_mem_paddedDecimal {width n : Nat} {c : Char} (h : c ∈ paddedDecimal width n) :
    isDigit c = true := by
  rw [paddedDecimal, List.mem_append] at h
  rcases h with h | h
  · rw [List.eq_of_mem_replicate h]
    rfl
  · exact isDigit_of_mem_decimal h

/-- Padding with zeros does not change a number. -/
theorem digitsValue_paddedDecimal (width n : Nat) : digitsValue (paddedDecimal width n) = n := by
  rw [paddedDecimal, digitsValue_replicate_zero, digitsValue_decimal]

theorem paddedDecimal_ne_nil (width n : Nat) : paddedDecimal width n ≠ [] := by
  rw [paddedDecimal]
  simp [decimal_ne_nil]

/-! ## §5 Numbers up to a bound -/

/-- Appending digits does not make a number smaller. -/
theorem le_foldl_digits (cs : List Char) (n : Nat) :
    n ≤ cs.foldl (fun n c => 10 * n + digitValue c) n := by
  induction cs generalizing n with
  | nil => exact Nat.le_refl n
  | cons c cs ih => exact Nat.le_trans (by omega) (ih (10 * n + digitValue c))

/-- No number on the way to one within the bound is beyond it. -/
theorem boundedDigits_of_le {most : Nat} {cs : List Char} {n : Nat} (tooFar : NumberProblem)
    (hdigits : ∀ c ∈ cs, isDigit c = true)
    (hmost : cs.foldl (fun n c => 10 * n + digitValue c) n ≤ most) :
    boundedDigits most tooFar n cs = .ok (cs.foldl (fun n c => 10 * n + digitValue c) n) := by
  -- on the digits, from any number that was already read
  induction cs generalizing n with
  | nil => rfl
  | cons c cs ih =>
    have hdigit : isDigit c = true := hdigits c List.mem_cons_self
    have hnext : 10 * n + digitValue c ≤ most := Nat.le_trans (le_foldl_digits cs _) hmost
    simp only [boundedDigits, hdigit, Bool.not_true, Bool.false_eq_true, if_false, hnext, if_true]
    exact ih (fun d hd => hdigits d (List.mem_cons_of_mem c hd)) hmost

/-- A text of digits alone is read as their value when this is within the bound. -/
theorem readUnsigned_of_digits {most : Nat} {cs : List Char} (hne : cs ≠ [])
    (hdigits : ∀ c ∈ cs, isDigit c = true) (hmost : digitsValue cs ≤ most) :
    readUnsigned most cs = .ok (digitsValue cs) := by
  -- there is no sign to be skipped, so the reading begins with the first digit
  have hplus : '+' ∉ cs := fun h => absurd (hdigits '+' h) (by decide)
  rw [readUnsigned]
  · exact boundedDigits_of_le .tooLarge hdigits hmost
  · exact hne
  · rintro rfl
    exact hplus List.mem_cons_self
  · rintro ds rfl
    exact hplus List.mem_cons_self

/-- A number is read back from its digits when it is within the bound. -/
theorem readUnsigned_decimal {most n : Nat} (h : n ≤ most) :
    readUnsigned most (decimal n) = .ok n := by
  have hmost : digitsValue (decimal n) ≤ most := by rwa [digitsValue_decimal]
  rw [readUnsigned_of_digits (decimal_ne_nil n) (fun _ => isDigit_of_mem_decimal) hmost,
    digitsValue_decimal]

end EventOutbox.Text
