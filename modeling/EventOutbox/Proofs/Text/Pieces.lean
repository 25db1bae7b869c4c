import EventOutbox.Text.Blank
import Mathlib.Data.List.Basic
import Mathlib.Data.List.TakeWhile

/-!
# Pieces and trimmed text

What cutting a text at a separator and trimming a text give, said without the way in which it is
done.  The pieces of a text are the only texts without the separator that give it when they are
joined, and a trimmed text is what is left between white space at the front and at the back.

## Main statements

- `pieces_eq_iff`
- `trimChars_eq_iff`
-/

namespace EventOutbox.Text

/-! ## §1 White space -/

/-- The characters with the Unicode property `White_Space`. -/
def whiteSpace : List Char :=
  ['\t', '\n', '\x0b', '\x0c', '\r', ' ', '\u0085', '\u00a0', '\u1680', '\u2000', '\u2001',
    '\u2002', '\u2003', '\u2004', '\u2005', '\u2006', '\u2007', '\u2008', '\u2009', '\u200a',
    '\u2028', '\u2029', '\u202f', '\u205f', '\u3000']

/-- The ranges of white space hold the listed characters and no other. -/
theorem isBlankChar_iff {c : Char} : isBlankChar c = true ↔ c ∈ whiteSpace := by
  -- a character is one of the list when its number is one of their numbers
  have hnumber : c ∈ whiteSpace ↔ c.toNat ∈ whiteSpace.map Char.toNat :=
    (List.mem_map_of_injective fun _ _ h => Char.toNat_inj.mp h).symm
  rw [hnumber]
  simp only [isBlankChar, inRanges, blankRanges, whiteSpace, List.any_cons, List.any_nil,
    List.map_cons, List.map_nil, List.mem_cons, List.not_mem_nil, Bool.or_eq_true,
    Bool.and_eq_true, decide_eq_true_eq, Bool.false_eq_true, or_false, Char.reduceToNat]
  omega

/-- A text of nothing but white space. -/
def Blank (cs : List Char) : Prop :=
  ∀ c ∈ cs, c ∈ whiteSpace

/-- A text that neither begins nor ends with white space. -/
structure Trimmed (cs : List Char) : Prop where
  front : ∀ c ∈ cs.head?, c ∉ whiteSpace
  back : ∀ c ∈ cs.getLast?, c ∉ whiteSpace

theorem Blank.append {cs ds : List Char} (hcs : Blank cs) (hds : Blank ds) : Blank (cs ++ ds) := by
  intro c hc
  rcases List.mem_append.mp hc with hc | hc
  · exact hcs c hc
  · exact hds c hc

theorem Blank.reverse {cs : List Char} (h : Blank cs) : Blank cs.reverse :=
  fun c hc => h c (List.mem_reverse.mp hc)

/-! ## §2 Trimming -/

/-- White space in front of a text that begins with another character is dropped. -/
theorem trimFront_append {front cs : List Char} (hfront : Blank front)
    (hcs : ∀ c ∈ cs.head?, c ∉ whiteSpace) : trimFront (front ++ cs) = cs := by
  unfold trimFront
  rw [List.dropWhile_append_of_pos fun c hc => isBlankChar_iff.mpr (hfront c hc)]
  cases cs with
  | nil => rfl
  | cons c cs =>
    apply List.dropWhile_cons_of_neg
    rw [isBlankChar_iff]
    exact hcs c rfl

theorem trimBack_eq_reverse (cs : List Char) : trimBack cs = (trimFront cs.reverse).reverse := rfl

/-- White space behind a text that ends with another character is dropped. -/
theorem trimBack_append {cs back : List Char} (hback : Blank back)
    (hcs : ∀ c ∈ cs.getLast?, c ∉ whiteSpace) : trimBack (cs ++ back) = cs := by
  rw [trimBack_eq_reverse, List.reverse_append, trimFront_append hback.reverse,
    List.reverse_reverse]
  simpa using hcs

/-- What is dropped at the front is white space, and what is left does not begin with it. -/
theorem exists_front (cs : List Char) : ∃ front, Blank front ∧ front ++ trimFront cs = cs ∧
    ∀ c ∈ (trimFront cs).head?, c ∉ whiteSpace := by
  refine ⟨cs.takeWhile isBlankChar, fun c hc => ?_, List.takeWhile_append_dropWhile,
    fun c hc hwhite => ?_⟩
  · exact isBlankChar_iff.mp (List.mem_takeWhile_imp hc)
  · have hnot := List.head?_dropWhile_not isBlankChar cs
    rw [trimFront] at hc
    simp only [Option.mem_def.mp hc, isBlankChar_iff.mpr hwhite] at hnot
    cases hnot

/-- What is dropped at the back is white space, and what is left does not end with it. -/
theorem exists_back (cs : List Char) : ∃ back, Blank back ∧ trimBack cs ++ back = cs ∧
    ∀ c ∈ (trimBack cs).getLast?, c ∉ whiteSpace := by
  -- the back of a text is the front of the reversed one
  obtain ⟨front, hfront, hcs, hhead⟩ := exists_front cs.reverse
  refine ⟨front.reverse, hfront.reverse, ?_, ?_⟩
  · rw [trimBack_eq_reverse, ← List.reverse_append, hcs, List.reverse_reverse]
  · simpa [trimBack_eq_reverse] using hhead

/-- Trimming gives the text between white space at the front and at the back. -/
theorem trimChars_eq_iff {cs core : List Char} : trimChars cs = core ↔
    Trimmed core ∧ ∃ front back, Blank front ∧ Blank back ∧ front ++ core ++ back = cs := by
  constructor
  · rintro rfl
    obtain ⟨front, hfront, hcs, hhead⟩ := exists_front cs
    obtain ⟨back, hback, hrest, hlast⟩ := exists_back (trimFront cs)
    refine ⟨⟨fun c hc => hhead c ?_, hlast⟩, front, back, hfront, hback, ?_⟩
    · -- the back is cut off behind the first character
      rw [← hrest, List.head?_append, ← trimChars, Option.mem_def.mp hc]
      rfl
    · rw [trimChars, List.append_assoc, hrest, hcs]
  · rintro ⟨hcore, front, back, hfront, hback, rfl⟩
    unfold trimChars
    cases core with
    | nil =>
      -- nothing is left of white space alone
      rw [List.append_nil, ← List.append_nil (front ++ back),
        trimFront_append (hfront.append hback) (by simp)]
      rfl
    | cons c core =>
      rw [List.append_assoc, trimFront_append hfront (by simpa using hcore.front),
        trimBack_append hback hcore.back]

/-- Nothing is left of white space alone, and only of it. -/
theorem trimChars_eq_nil_iff {cs : List Char} : trimChars cs = [] ↔ Blank cs := by
  rw [trimChars_eq_iff]
  constructor
  · rintro ⟨-, front, back, hfront, hback, rfl⟩
    simpa using hfront.append hback
  · intro hcs
    exact ⟨⟨by simp, by simp⟩, cs, [], hcs, by simp [Blank], by simp⟩

/-! ## §3 Pieces -/

theorem pieces_eq_splitOn (sep : Char) (cs : List Char) : pieces sep cs = cs.splitOn sep := by
  induction cs with
  | nil => rfl
  | cons c cs ih =>
    rw [pieces, List.splitOn_cons_eq_if_modifyHead, ih]
    by_cases hc : c = sep
    · simp [hc]
    · simp only [hc, beq_iff_eq, if_false]
      -- there is a first piece, which gets the character
      cases hps : cs.splitOn sep with
      | nil => exact absurd hps (List.splitOn_ne_nil sep cs)
      | cons p ps => rfl

/-- No piece holds the separator. -/
theorem notMem_of_mem_pieces {sep : Char} {cs p : List Char} (hp : p ∈ pieces sep cs) :
    sep ∉ p := by
  induction cs generalizing p with
  | nil => simp_all [pieces]
  | cons c cs ih =>
    rw [pieces] at hp
    split at hp
    case isTrue =>
      rcases List.mem_cons.mp hp with rfl | hp
      · exact List.not_mem_nil
      · exact ih hp
    case isFalse hc =>
      split at hp
      case h_1 =>
        rw [List.mem_singleton.mp hp]
        simpa using Ne.symm hc
      case h_2 q qs hqs =>
        -- the first piece has one character more than the first piece of the rest
        rw [hqs] at ih
        rcases List.mem_cons.mp hp with rfl | hp
        · simpa [Ne.symm hc] using ih List.mem_cons_self
        · exact ih (List.mem_cons_of_mem q hp)

/-- The pieces of a text are the texts without the separator that give it when they are joined. -/
theorem pieces_eq_iff {sep : Char} {cs : List Char} {ps : List (List Char)} :
    pieces sep cs = ps ↔ ps ≠ [] ∧ (∀ p ∈ ps, sep ∉ p) ∧ [sep].intercalate ps = cs := by
  constructor
  · rintro rfl
    refine ⟨?_, fun p hp => notMem_of_mem_pieces hp, ?_⟩
    · rw [pieces_eq_splitOn]
      exact List.splitOn_ne_nil sep cs
    · rw [pieces_eq_splitOn]
      exact List.intercalate_splitOn sep
  · rintro ⟨hne, hsep, rfl⟩
    rw [pieces_eq_splitOn]
    exact List.splitOn_intercalate sep hsep hne

end EventOutbox.Text
