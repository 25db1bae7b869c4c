import EventOutbox.Proofs.Text.Pieces
import EventOutbox.Settings.Stream

/-!
# Lists of groups

A list of groups is a text with commas.  A grammar says which names it stands for: between two
commas there is either white space alone, which stands for nothing, or one name with any white space
around it.  The names that are read from a text are those of the grammar, and no text stands for two
lists of names.

## Main statements

- `Stream.entries_of_isCut`
- `Stream.groupsOf_intercalate`
-/

namespace EventOutbox.Settings.Stream

open EventOutbox.Text

/-! ## §1 The grammar -/

/-- A name that a list of groups can hold. -/
structure IsGroupName (name : String) : Prop where
  ne_empty : name ≠ ""
  no_comma : ',' ∉ name.toList
  trimmed : Trimmed name.toList

/-- The entries of a list of groups, and the names that they stand for. -/
inductive Entries : List String → List String → Prop where
  | done : Entries [] []
  /-- A blank entry stands for nothing. -/
  | blank {entry : String} {entries names} (blank : Blank entry.toList)
      (rest : Entries entries names) : Entries (entry :: entries) names
  /-- A name may have white space around it. -/
  | name {front name back : String} {entries names} (isName : IsGroupName name)
      (blank_front : Blank front.toList) (blank_back : Blank back.toList)
      (rest : Entries entries names) :
      Entries ((front ++ name ++ back) :: entries) (name :: names)

/-- The entries into which a text is cut at its commas. -/
structure IsCut (text : String) (entries : List String) : Prop where
  ne_nil : entries ≠ []
  no_comma : ∀ entry ∈ entries, ',' ∉ entry.toList
  joined : ",".intercalate entries = text

theorem comma_notMem_of_blank {cs : List Char} (h : Blank cs) : ',' ∉ cs := by
  intro hcomma
  have hwhite := h ',' hcomma
  revert hwhite
  decide

/-- White space holds no comma and a name neither, so no entry does. -/
theorem Entries.no_comma {entries names : List String} (h : Entries entries names) :
    ∀ entry ∈ entries, ',' ∉ entry.toList := by
  induction h with
  | done => simp
  | blank hblank _ ih => simpa using ⟨comma_notMem_of_blank hblank, ih⟩
  | name hname hfront hback _ ih =>
    simpa using ⟨⟨comma_notMem_of_blank hfront, hname.no_comma, comma_notMem_of_blank hback⟩, ih⟩

/-- Entries stand for names that a list can hold. -/
theorem Entries.isGroupName {entries names : List String} (h : Entries entries names) :
    ∀ name ∈ names, IsGroupName name := by
  induction h with
  | done => simp
  | blank _ _ ih => exact ih
  | name hname _ _ _ ih => simpa using ⟨hname, ih⟩

/-- Names stand for themselves. -/
theorem entries_self {names : List String} (h : ∀ name ∈ names, IsGroupName name) :
    Entries names names := by
  induction names with
  | nil => exact .done
  | cons name names ih =>
    have hempty : Blank "".toList := by simp [Blank]
    have hrest := ih fun other hother => h other (List.mem_cons_of_mem _ hother)
    simpa using Entries.name (h name List.mem_cons_self) hempty hempty hrest

/-! ## §2 Reading -/

/-- The names that are left of pieces when they are trimmed and blank ones are dropped. -/
def namesIn (ps : List (List Char)) : List String :=
  ((ps.map trimChars).filter fun g => !g.isEmpty).map String.ofList

theorem groupsOf_eq_namesIn (list : String) : groupsOf list = namesIn (pieces ',' list.toList) :=
  rfl

theorem namesIn_cons_of_blank {p : List Char} (h : Blank p) (ps : List (List Char)) :
    namesIn (p :: ps) = namesIn ps := by
  simp [namesIn, trimChars_eq_nil_iff.mpr h]

theorem namesIn_cons_of_name {p : List Char} {name : String} (h : trimChars p = name.toList)
    (hname : IsGroupName name) (ps : List (List Char)) :
    namesIn (p :: ps) = name :: namesIn ps := by
  simp [namesIn, h, hname.ne_empty]

/-- Entries are read as the names that they stand for. -/
theorem Entries.namesIn_eq {entries names : List String} (h : Entries entries names) :
    namesIn (entries.map String.toList) = names := by
  induction h with
  | done => rfl
  | blank hblank _ ih => rw [List.map_cons, namesIn_cons_of_blank hblank, ih]
  | @name front name back entries names hname hfront hback _ ih =>
    -- white space around the name is trimmed, and the name itself is not touched
    have htrim : trimChars (front ++ name ++ back).toList = name.toList := by
      apply trimChars_eq_iff.mpr
      exact ⟨hname.trimmed, front.toList, back.toList, hfront, hback, by simp⟩
    rw [List.map_cons, namesIn_cons_of_name htrim hname, ih]

/-- What is left of a piece that is not blank is a name, between what is cut off. -/
theorem exists_name {p : List Char} (hcomma : ',' ∉ p) (hblank : ¬ Blank p) :
    ∃ front name back : String, IsGroupName name ∧ Blank front.toList ∧ Blank back.toList ∧
      String.ofList p = front ++ name ++ back ∧ trimChars p = name.toList := by
  obtain ⟨htrimmed, front, back, hfront, hback, hp⟩ := trimChars_eq_iff.mp (Eq.refl (trimChars p))
  refine ⟨String.ofList front, String.ofList (trimChars p), String.ofList back, ?_,
    by simpa using hfront, by simpa using hback, ?_, by simp⟩
  · constructor
    case ne_empty =>
      intro hempty
      apply hblank
      exact trimChars_eq_nil_iff.mp (by simpa using hempty)
    case no_comma =>
      intro hmem
      apply hcomma
      rw [← hp, List.mem_append, List.mem_append]
      exact .inl (.inr (by simpa using hmem))
    case trimmed => simpa using htrimmed
  · rw [← String.ofList_append, ← String.ofList_append, hp]

/-- Pieces without commas are entries, and what is read from them is what they stand for. -/
theorem entries_namesIn {ps : List (List Char)} (h : ∀ p ∈ ps, ',' ∉ p) :
    Entries (ps.map String.ofList) (namesIn ps) := by
  induction ps with
  | nil => exact .done
  | cons p ps ih =>
    have hrest := ih fun q hq => h q (List.mem_cons_of_mem p hq)
    rw [List.map_cons]
    -- a blank piece is an entry for nothing, and any other one is a name with white space around it
    by_cases hblank : Blank p
    · rw [namesIn_cons_of_blank hblank]
      exact .blank (by simpa using hblank) hrest
    · obtain ⟨front, name, back, hname, hfront, hback, hp, htrim⟩ :=
        exists_name (h p List.mem_cons_self) hblank
      rw [namesIn_cons_of_name htrim hname, hp]
      exact .name hname hfront hback hrest

/-! ## §3 Texts and their entries -/

theorem joined_iff {text : String} {entries : List String} : ",".intercalate entries = text ↔
    [','].intercalate (entries.map String.toList) = text.toList := by
  rw [← String.toList_inj, String.toList_intercalate]
  rfl

/-- The entries into which a text is cut are its pieces. -/
theorem IsCut.pieces_eq {text : String} {entries : List String} (h : IsCut text entries) :
    pieces ',' text.toList = entries.map String.toList := by
  apply pieces_eq_iff.mpr
  exact ⟨by simpa using h.ne_nil, by simpa using h.no_comma, joined_iff.mp h.joined⟩

/-- A text is cut at its commas in one way only. -/
theorem isCut_iff {text : String} {entries : List String} :
    IsCut text entries ↔ entries = (pieces ',' text.toList).map String.ofList := by
  constructor
  · intro hcut
    rw [hcut.pieces_eq]
    simp
  · intro hentries
    have htoList : entries.map String.toList = pieces ',' text.toList := by
      simp [hentries]
    obtain ⟨hne, hcomma, hjoin⟩ := pieces_eq_iff.mp htoList.symm
    exact ⟨by simpa using hne, by simpa using hcomma, joined_iff.mpr hjoin⟩

/-- What is read from a text is what its entries stand for. -/
theorem entries_of_isCut {text : String} {entries : List String} (h : IsCut text entries) :
    Entries entries (groupsOf text) := by
  rw [isCut_iff.mp h, groupsOf_eq_namesIn]
  exact entries_namesIn fun p hp => notMem_of_mem_pieces hp

/-- However names are spelled, they are read back. -/
theorem groupsOf_intercalate {entries names : List String} (h : Entries entries names) :
    groupsOf (",".intercalate entries) = names := by
  -- a text without entries would still have one piece, so this is a case of its own
  by_cases hne : entries = []
  · subst hne
    cases h
    rfl
  · have hcut : IsCut (",".intercalate entries) entries := ⟨hne, h.no_comma, rfl⟩
    rw [groupsOf_eq_namesIn, hcut.pieces_eq, h.namesIn_eq]

/-- Blank entries and all kinds of white space do not count, and names may be repeated. -/
example : groupsOf "\t, billing\u3000,,\n mail queue,billing," =
    ["billing", "mail queue", "billing"] := by
  decide +kernel

end EventOutbox.Settings.Stream
