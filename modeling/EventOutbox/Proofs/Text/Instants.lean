import EventOutbox.Instant.Text
import EventOutbox.Proofs.Text.Digits
import Mathlib.Data.List.TakeWhile

/-!
# Instants that are read back

The text of an instant is read back for every day of the calendar, in leap seconds and with every
fraction of a second.  Each field is found again because something follows it that does not belong
to it: two digits, a separator that is no digit, or the end of the text.

What is read back is the instant itself, unless its fraction runs past a second in the middle of a
minute: such an instant is written like the one with the next second, and only this one is read.

## Main statements

- `Instant.ofText_text`
- `Instant.ofText_text_iff`, `Instant.regular_of_ofText`
-/

namespace EventOutbox.Instant

open EventOutbox.Text

/-! ## §1 Scanning -/

/-- What follows does not begin with a digit. -/
def NoDigit (cs : List Char) : Prop :=
  ∀ c ∈ cs.head?, isDigit c = false

theorem noDigit_nil : NoDigit [] := by
  intro c hc
  simp at hc

theorem noDigit_cons {c : Char} (h : isDigit c = false) (cs : List Char) : NoDigit (c :: cs) := by
  intro d hd
  rw [List.head?_cons, Option.mem_some] at hd
  exact hd ▸ h

variable {α β : Type} {cs ds rest : List Char}

theorem scan_bind {a : Scan α} {f : α → Scan β} {x : α} (h : a cs = .ok (x, rest)) :
    (a >>= f) cs = f x rest := by
  show (a cs >>= fun p => f p.1 p.2) = f x rest
  rw [h]
  rfl

theorem skipBlanks_cons {c : Char} (h : isBlankChar c = false) (cs : List Char) :
    skipBlanks (c :: cs) = .ok ((), c :: cs) := by
  rw [skipBlanks, trimFront, List.dropWhile_cons_of_neg (by rw [h]; exact Bool.false_ne_true)]

theorem skipBlanks_digits (hne : ds ≠ []) (hdigits : ∀ c ∈ ds, isDigit c = true)
    (rest : List Char) : skipBlanks (ds ++ rest) = .ok ((), ds ++ rest) := by
  obtain ⟨c, ds, rfl⟩ := List.exists_cons_of_ne_nil hne
  exact skipBlanks_cons (isBlankChar_of_isDigit (hdigits c List.mem_cons_self)) (ds ++ rest)

/-- Digits are taken up to something that is none. -/
theorem takeWhile_digits (hdigits : ∀ c ∈ ds, isDigit c = true) (hrest : NoDigit rest) :
    (ds ++ rest).takeWhile isDigit = ds := by
  rw [List.takeWhile_append_of_pos hdigits]
  cases rest with
  | nil => exact List.append_nil ds
  | cons c rest =>
    have hc := hrest c rfl
    rw [List.takeWhile_cons_of_neg (by rw [hc]; exact Bool.false_ne_true), List.append_nil]

/-- A number is read from the digits that are seen. -/
theorem number_of_seen {width : Option Nat} (hne : ds ≠ [])
    (hseen : (width.elim (ds ++ rest) ((ds ++ rest).take ·)).takeWhile isDigit = ds) :
    number width (ds ++ rest) = .ok (digitsValue ds, rest) := by
  have hnumber : number width (ds ++ rest) =
      if ds.isEmpty then .error (if (ds ++ rest).isEmpty then .tooShort else .invalid)
      else .ok (digitsValue ds, (ds ++ rest).drop ds.length) := by
    cases width <;> simp only [Option.elim] at hseen <;> simp only [number, hseen]
  rw [hnumber, if_neg (by simpa using hne), List.drop_left]

/-- A number that fills its field is read, whatever follows. -/
theorem number_filled (hne : ds ≠ []) (hdigits : ∀ c ∈ ds, isDigit c = true)
    (rest : List Char) : number (some ds.length) (ds ++ rest) = .ok (digitsValue ds, rest) := by
  refine number_of_seen hne ?_
  show ((ds ++ rest).take ds.length).takeWhile isDigit = ds
  rw [List.take_left]
  have hall := takeWhile_digits hdigits noDigit_nil
  rwa [List.append_nil] at hall

/-- A number without a width is read up to something that is no digit. -/
theorem number_unbounded (hne : ds ≠ []) (hdigits : ∀ c ∈ ds, isDigit c = true)
    (hrest : NoDigit rest) : number none (ds ++ rest) = .ok (digitsValue ds, rest) :=
  number_of_seen hne (takeWhile_digits hdigits hrest)

/-- A number with fewer digits than its field is read up to something that is no digit. -/
theorem number_unfilled {width : Nat} (hne : ds ≠ []) (hdigits : ∀ c ∈ ds, isDigit c = true)
    (hfit : ds.length ≤ width) (hrest : NoDigit rest) :
    number (some width) (ds ++ rest) = .ok (digitsValue ds, rest) := by
  refine number_of_seen hne ?_
  show ((ds ++ rest).take width).takeWhile isDigit = ds
  rw [List.take_append, List.take_of_length_le hfit]
  refine takeWhile_digits hdigits fun c hc => ?_
  -- the first character of a part of what follows is its first character
  cases rest with
  | nil => simp at hc
  | cons d rest =>
    cases hk : width - ds.length with
    | zero => simp [hk] at hc
    | succ k =>
      rw [hk, List.take_succ_cons, List.head?_cons] at hc
      exact hrest c hc

theorem fixedDecimal_ne_nil {width : Nat} (hwidth : width ≠ 0) (n : Nat) :
    fixedDecimal width n ≠ [] := by
  rw [← List.length_pos_iff, length_fixedDecimal]
  exact Nat.pos_of_ne_zero hwidth

theorem number_fixedDecimal {width n : Nat} (hwidth : width ≠ 0) (h : n < 10 ^ width)
    (rest : List Char) :
    number (some width) (fixedDecimal width n ++ rest) = .ok (n, rest) := by
  have hne := fixedDecimal_ne_nil hwidth n
  have hnumber := number_filled hne (fun c hc => isDigit_of_mem_fixedDecimal hc) rest
  rwa [length_fixedDecimal, digitsValue_fixedDecimal h] at hnumber

/-! ## §2 Fields -/

theorem require_of {p : Bool} (h : p = true) (cs : List Char) : require p cs = .ok ((), cs) := by
  rw [require, if_pos h]
  rfl

/-- Two digits are read as the number of a field, if it lies within the bounds. -/
theorem field_fixedDecimal {least most n : Nat} (hleast : least ≤ n) (hmost : n ≤ most)
    (hn : n < 100) (rest : List Char) :
    field least most (fixedDecimal 2 n ++ rest) = .ok (n, rest) := by
  have hne := fixedDecimal_ne_nil (by decide : 2 ≠ 0) n
  have hrange : (decide (least ≤ n) && decide (n ≤ most)) = true := by simp [hleast, hmost]
  rw [field, scan_bind (skipBlanks_digits hne (fun c hc => isDigit_of_mem_fixedDecimal hc) rest),
    scan_bind (number_fixedDecimal (by decide) hn rest), scan_bind (require_of hrange rest)]
  rfl

theorem separator_cons {c : Char} (h : isBlankChar c = false) (rest : List Char) :
    separator c (c :: rest) = .ok ((), rest) := by
  rw [separator, scan_bind (skipBlanks_cons h rest), literal, if_pos rfl]

/-- A year is digits, or a sign with digits behind it. -/
theorem yearDigits_yearChars {year : Int} (hrest : NoDigit rest) :
    yearDigits (yearChars year ++ rest) = .ok (year, rest) := by
  rw [yearChars]
  split
  · -- four digits, of which the first is no sign
    next hplain =>
    have hfour : year.toNat < 10 ^ 4 := by omega
    have hnumber := number_fixedDecimal (by decide) hfour rest
    obtain ⟨c, ds, hchars⟩ :=
      List.exists_cons_of_ne_nil (fixedDecimal_ne_nil (by decide : 4 ≠ 0) year.toNat)
    have hdigit : isDigit c = true :=
      isDigit_of_mem_fixedDecimal (hchars ▸ List.mem_cons_self)
    have hminus : c ≠ '-' := by
      rintro rfl
      cases hdigit
    have hplus : c ≠ '+' := by
      rintro rfl
      cases hdigit
    rw [hchars, List.cons_append] at hnumber ⊢
    rw [yearDigits]
    · rw [hnumber]
      simp only [Except.map, Int.toNat_of_nonneg hplain.1]
    · exact fun cs hcs => hminus (List.cons.inj hcs).1
    · exact fun cs hcs => hplus (List.cons.inj hcs).1
  · -- a sign, and the digits of the absolute value
    next hsigned =>
    have hnumber : number none (paddedDecimal 4 year.natAbs ++ rest) = .ok (year.natAbs, rest) := by
      have h := number_unbounded (paddedDecimal_ne_nil 4 year.natAbs)
        (fun c hc => isDigit_of_mem_paddedDecimal hc) hrest
      rwa [digitsValue_paddedDecimal] at h
    rw [List.cons_append]
    split
    · rw [yearDigits, hnumber]
      simp only [Except.map, Except.ok.injEq, Prod.mk.injEq, and_true]
      omega
    · rw [yearDigits, hnumber]
      simp only [Except.map, Except.ok.injEq, Prod.mk.injEq, and_true]
      omega

theorem skipBlanks_yearChars (year : Int) (rest : List Char) :
    skipBlanks (yearChars year ++ rest) = .ok ((), yearChars year ++ rest) := by
  rw [yearChars]
  split
  · exact skipBlanks_digits (fixedDecimal_ne_nil (by decide) _)
      (fun c hc => isDigit_of_mem_fixedDecimal hc) rest
  · split <;> exact skipBlanks_cons (by decide) _

theorem yearField_yearChars {year : Int} (hleast : minYear ≤ year) (hmost : year ≤ maxYear)
    (hrest : NoDigit rest) : yearField (yearChars year ++ rest) = .ok (year, rest) := by
  rw [minYear] at hleast
  rw [maxYear] at hmost
  have hrange : (decide (-2147483648 ≤ year) && decide (year ≤ 2147483647)) = true := by
    rw [Bool.and_eq_true, decide_eq_true_iff, decide_eq_true_iff]
    omega
  rw [yearField, scan_bind (skipBlanks_yearChars year rest),
    scan_bind (yearDigits_yearChars hrest), scan_bind (require_of hrange rest)]
  rfl

theorem dayEnd_cons (rest : List Char) : dayEnd ('T' :: rest) = .ok ((), rest) := rfl

theorem offset_universal : offset ['Z'] = .ok (0, []) := by decide

/-- A fraction of any number of digits up to nine, with nothing but the offset behind it. -/
theorem fraction_digits {width n nano : Nat} (hwidth : width ≠ 0) (hnine : width ≤ 9)
    (h : n < 10 ^ width) (hnano : n * 10 ^ (9 - width) = nano) :
    fraction ('.' :: fixedDecimal width n ++ ['Z']) = .ok (nano, ['Z']) := by
  have hfit : (fixedDecimal width n).length ≤ 9 := by
    rw [length_fixedDecimal]
    exact hnine
  have hend : NoDigit ['Z'] := noDigit_cons (by decide) []
  have hnumber := number_unfilled (fixedDecimal_ne_nil hwidth n)
    (fun c hc => isDigit_of_mem_fixedDecimal hc) hfit hend
  rw [digitsValue_fixedDecimal h] at hnumber
  have hread : (fixedDecimal width n ++ ['Z']).length - ['Z'].length = width := by simp
  rw [List.cons_append, fraction, hnumber]
  simp only [Except.map, hread, Nat.pow_eq, hnano]
  rfl

/-- The fraction is read back from three digits, six or nine, or from none at all. -/
theorem fraction_fractionChars {nano : Nat} (h : nano < 1000000000) :
    fraction (fractionChars nano ++ ['Z']) = .ok (nano, ['Z']) := by
  rw [fractionChars]
  split
  · next hzero =>
    subst hzero
    rfl
  -- three digits are enough, or six, or it takes all nine
  · split
    · exact fraction_digits (by decide) (by decide) (by omega) (by omega)
    · split
      · exact fraction_digits (by decide) (by decide) (by omega) (by omega)
      · exact fraction_digits (by decide) (by decide) (by omega) (by omega)

/-! ## §3 What is written -/

/-- The fraction runs past no second but the last one of a minute, as it does in a leap second. -/
def Regular (t : Instant) : Prop :=
  t.overruns = true → t.second.val = 59

instance (t : Instant) : Decidable t.Regular :=
  inferInstanceAs (Decidable (t.overruns = true → t.second.val = 59))

/-- The regular instant that is written like this one: a fraction that runs past a second within a
minute is carried into the seconds. -/
def carried (t : Instant) : Instant :=
  if t.Regular then t
  else ofFields t.date t.hour.val t.minute.val t.writtenSecond t.writtenNano

theorem overruns_iff (t : Instant) : t.overruns = true ↔ 1000000000 ≤ t.nano.val := by
  rw [overruns, decide_eq_true_iff, nanosPerSecond]

theorem writtenSecond_le (t : Instant) : t.writtenSecond ≤ 60 := by
  have hsecond := t.second.isLt
  have hwhole := Bool.toNat_le t.overruns
  rw [writtenSecond]
  omega

theorem writtenNano_lt (t : Instant) : t.writtenNano < 1000000000 :=
  Nat.mod_lt _ (by decide)

theorem carried_of_regular {t : Instant} (h : t.Regular) : t.carried = t := if_pos h

theorem regular_of_nano_lt {t : Instant} (h : t.nano.val < 1000000000) : t.Regular := by
  intro hover
  rw [overruns_iff] at hover
  omega

/-- The instants that are written as they are. -/
theorem carried_eq_iff (t : Instant) : t.carried = t ↔ t.Regular := by
  refine ⟨fun h => ?_, carried_of_regular⟩
  by_contra hirregular
  -- what is carried has a fraction of less than a second, so it was not this instant
  rw [carried, if_neg hirregular] at h
  have hnano : t.writtenNano % 2000000000 = t.nano.val := congrArg (fun t => t.nano.val) h
  have hwritten := t.writtenNano_lt
  exact hirregular (regular_of_nano_lt (by omega))

/-- The fields as they are written are those of the instant with its fraction carried.  Second 60
is written for a leap second only. -/
theorem ofFields_written (t : Instant) :
    ofFields t.date t.hour.val t.minute.val
        (t.writtenSecond - if t.writtenSecond = 60 then 1 else 0)
        (t.writtenNano + (if t.writtenSecond = 60 then 1 else 0) * nanosPerSecond) =
      t.carried := by
  have hsecond := t.second.isLt
  have hnano := t.nano.isLt
  by_cases hover : t.overruns = true
  case neg =>
    have hshort : t.nano.val < 1000000000 := by
      rw [overruns_iff] at hover
      omega
    have hfull : t.writtenSecond = t.second.val := by simp [writtenSecond, hover]
    have hrest : t.writtenNano = t.nano.val := Nat.mod_eq_of_lt hshort
    rw [carried_of_regular (regular_of_nano_lt hshort), hfull, hrest,
      if_neg (Nat.ne_of_lt hsecond), Nat.sub_zero, Nat.zero_mul, Nat.add_zero, ofFields]
    simp only [Fin.ofNat_val_eq_self]
  case pos =>
    have hlong := (overruns_iff t).mp hover
    have hfull : t.writtenSecond = t.second.val + 1 := by simp [writtenSecond, hover]
    by_cases hlast : t.second.val = 59
    · -- a leap second
      have hrest : t.writtenNano + nanosPerSecond = t.nano.val := by
        rw [writtenNano, nanosPerSecond]
        omega
      rw [carried_of_regular fun _ => hlast, if_pos (by omega), Nat.one_mul, hrest, hfull,
        Nat.add_sub_cancel, ofFields]
      simp only [Fin.ofNat_val_eq_self]
    · -- the next second is within the minute, so it is not written as 60
      have hirregular : ¬ t.Regular := fun h => hlast (h hover)
      rw [carried, if_neg hirregular, if_neg (by omega), Nat.sub_zero, Nat.zero_mul, Nat.add_zero]

/-! ## §4 Whole texts -/

theorem daysInMonth_le (year : Int) (month : Nat) : daysInMonth year month ≤ 31 := by
  unfold daysInMonth
  split
  · split <;> decide
  all_goals decide

/-- The text of an instant has the fields as they are written, and the offset of universal time. -/
theorem reading_chars (t : Instant) :
    reading t.chars = .ok ({
      year := t.date.year, month := t.date.month, day := t.date.day, hour := t.hour.val,
      minute := t.minute.val, second := t.writtenSecond, nano := t.writtenNano, offset := 0 },
      []) := by
  obtain ⟨⟨hleast, hmost⟩, ⟨hmonth, hmonth'⟩, hday, hday'⟩ := t.date.isDay
  have hlongest := daysInMonth_le t.date.year t.date.month
  have hhour := t.hour.isLt
  have hminute := t.minute.isLt
  have hsecond : t.writtenSecond ≤ 60 := t.writtenSecond_le
  simp only [chars, localChars, List.append_assoc, List.cons_append]
  -- every part of the text is read by its own scanner, which leaves the parts behind it
  rw [reading, scan_bind (yearField_yearChars hleast hmost (noDigit_cons (by decide) _)),
    scan_bind (separator_cons (by decide) _),
    scan_bind (field_fixedDecimal hmonth hmonth' (by omega) _),
    scan_bind (separator_cons (by decide) _),
    scan_bind (field_fixedDecimal hday (by omega) (by omega) _),
    scan_bind (dayEnd_cons _),
    scan_bind (field_fixedDecimal (Nat.zero_le _) (by omega) (by omega) _),
    scan_bind (separator_cons (by decide) _),
    scan_bind (field_fixedDecimal (Nat.zero_le _) (by omega) (by omega) _),
    scan_bind (separator_cons (by decide) _),
    scan_bind (field_fixedDecimal (Nat.zero_le _) hsecond (by omega) _),
    scan_bind (fraction_fractionChars t.writtenNano_lt),
    scan_bind (skipBlanks_cons (by decide) _),
    scan_bind offset_universal]
  rfl

/-- A reading in universal time denotes the instant with its date, hour and minute. -/
theorem ofReading_universal (date : Date) (hour : Fin 24) (minute : Fin 60) (second nano : Nat) :
    ofReading {
      year := date.year, month := date.month, day := date.day, hour := hour.val,
      minute := minute.val, second, nano, offset := 0 } =
        .ok (ofFields date hour.val minute.val (second - if second = 60 then 1 else 0)
          (nano + (if second = 60 then 1 else 0) * nanosPerSecond)) := by
  have hhour := hour.isLt
  have hminute := minute.isLt
  have hdate : Date.of? date.year date.month date.day = some date := dif_pos date.isDay
  -- without an offset the minutes stay within the day
  have hsameDay : ((60 * hour.val + minute.val : Nat) - (0 : Int)) / 1440 = 0 := by omega
  have hhours : (((60 * hour.val + minute.val : Nat) - (0 : Int)) % 1440 / 60).toNat =
      hour.val := by omega
  have hminutes : (((60 * hour.val + minute.val : Nat) - (0 : Int)) % 60).toNat =
      minute.val := by omega
  simp only [ofReading, hdate, hsameDay, hhours, hminutes, shiftDay?, if_true]
  rw [if_neg (by decide)]

/-- The text of an instant is read as the instant that is written like it. -/
theorem ofText_text (t : Instant) : ofText t.text = .ok t.carried := by
  rw [ofText, text, String.toList_ofList, ofChars, reading_chars]
  exact (ofReading_universal t.date t.hour t.minute t.writtenSecond t.writtenNano).trans
    (congrArg Except.ok t.ofFields_written)

/-- The text of an instant is read back as the instant exactly when its fraction runs past no second
within a minute. -/
theorem ofText_text_iff (t : Instant) : ofText t.text = .ok t ↔ t.Regular := by
  rw [ofText_text, Except.ok.injEq, carried_eq_iff]

/-! ## §5 What is read -/

/-- A scanner that ends went through its first part. -/
theorem of_scan_bind {a : Scan α} {f : α → Scan β} {y : β} (h : (a >>= f) cs = .ok (y, rest)) :
    ∃ x ds, a cs = .ok (x, ds) ∧ f x ds = .ok (y, rest) := by
  change (a cs >>= fun p => f p.1 p.2) = .ok (y, rest) at h
  cases ha : a cs with
  | error e =>
    rw [ha] at h
    cases h
  | ok p =>
    rw [ha] at h
    exact ⟨p.1, p.2, rfl, h⟩

/-- A number that is read stands for as many digits as are taken from the text, which are no more
than its width. -/
theorem of_number {width : Nat} {n : Nat} (h : number (some width) cs = .ok (n, rest)) :
    n < 10 ^ (cs.length - rest.length) ∧ cs.length - rest.length ≤ width := by
  simp only [number] at h
  split at h
  · cases h
  obtain ⟨rfl, rfl⟩ := Prod.mk.inj (Except.ok.inj h)
  have hprefix := List.takeWhile_prefix isDigit (l := cs.take width)
  have hwidth := hprefix.length_le
  rw [List.length_take] at hwidth
  have htaken : cs.length - (cs.drop ((cs.take width).takeWhile isDigit).length).length =
      ((cs.take width).takeWhile isDigit).length := by
    rw [List.length_drop]
    omega
  rw [htaken]
  exact ⟨digitsValue_lt fun c hc => List.mem_takeWhile_imp hc, by omega⟩

/-- A fraction that is read is less than a second. -/
theorem lt_of_fraction {n : Nat} (h : fraction cs = .ok (n, rest)) : n < nanosPerSecond := by
  unfold fraction at h
  split at h
  case h_2 =>
    obtain ⟨rfl, -⟩ := Prod.mk.inj (Except.ok.inj h)
    decide
  case h_1 digits =>
    cases hnumber : number (some 9) digits with
    | error e =>
      rw [hnumber] at h
      cases h
    | ok p =>
      obtain ⟨digitsRead, after⟩ := p
      rw [hnumber] at h
      obtain ⟨rfl, -⟩ := Prod.mk.inj (Except.ok.inj h)
      obtain ⟨hvalue, hnine⟩ := of_number hnumber
      -- the digits are padded to nine
      have hten : 0 < 10 ^ (9 - (digits.length - after.length)) := Nat.pow_pos (by decide)
      have hpadded := Nat.mul_lt_mul_of_pos_right hvalue hten
      rwa [← Nat.pow_add, Nat.add_sub_cancel' hnine] at hpadded

/-- The fraction of a reading is less than a second, as there are nine digits at most. -/
theorem nano_lt_of_reading {r : Reading} (h : reading cs = .ok (r, rest)) :
    r.nano < nanosPerSecond := by
  -- the fields and separators before the fraction
  iterate 11 obtain ⟨_, _, -, h⟩ := of_scan_bind h
  obtain ⟨nano, _, hnano, h⟩ := of_scan_bind h
  -- white space and the offset
  iterate 2 obtain ⟨_, _, -, h⟩ := of_scan_bind h
  obtain ⟨rfl, -⟩ := Prod.mk.inj (Except.ok.inj h)
  exact lt_of_fraction hnano

/-- Fields with less than a second of fraction, or with the last second of a minute, make a regular
instant. -/
theorem regular_ofFields (date : Date) (hour minute : Nat) {second nano : Nat}
    (h : nano < nanosPerSecond ∨ second = 59) :
    (ofFields date hour minute second nano).Regular := by
  rcases h with h | rfl
  · rw [nanosPerSecond] at h
    refine regular_of_nano_lt ?_
    show nano % 2000000000 < 1000000000
    omega
  · exact fun _ => rfl

/-- Second 60 is the only one that a reading gives more than a second of fraction. -/
theorem regular_of_ofReading {r : Reading} {t : Instant} (hnano : r.nano < nanosPerSecond)
    (h : ofReading r = .ok t) : t.Regular := by
  simp only [ofReading] at h
  split at h
  · cases h
  split at h
  · cases h
  split at h
  · cases h
  obtain rfl := Except.ok.inj h
  refine regular_ofFields _ _ _ ?_
  -- second 60 is read as second 59 with a fraction that is a second longer
  by_cases hleap : r.second = 60
  · exact .inr (by rw [if_pos hleap, hleap])
  · exact .inl (by rwa [if_neg hleap, Nat.zero_mul, Nat.add_zero])

/-- No text is read as an instant whose fraction runs past a second within a minute. -/
theorem regular_of_ofText {s : String} {t : Instant} (h : ofText s = .ok t) : t.Regular := by
  rw [ofText, ofChars] at h
  cases hreading : reading s.toList with
  | error e =>
    rw [hreading] at h
    cases h
  | ok p =>
    obtain ⟨r, rest⟩ := p
    rw [hreading] at h
    simp only at h
    split at h
    · exact regular_of_ofReading (nano_lt_of_reading hreading) h
    · cases h

end EventOutbox.Instant
