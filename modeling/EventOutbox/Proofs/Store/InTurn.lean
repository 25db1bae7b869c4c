import EventOutbox.Proofs.Store.Entities

/-!
# Changes in turn

A commit checks all its changes against the rows as they were before.  One may also check and write
the changes in turn, each against the rows that those before it left, as a database does with the
statements of a transaction.  The two agree when no key is changed twice, and on a change set that
changes a key twice they are never both content: the changes of the key would have to be based on
one version, of which the first leaves nothing to the second.

## Main statements

- `Store.commit_agrees_in_turn`: the two agree on change sets that change no key twice.
- `Store.commit_overwrites`: two changes of one key that are based on one version are accepted, and
  the second overwrites the first.
-/

namespace EventOutbox.Store

/-- The rows after changes are checked and written in turn; `none` when one is refused or its
versions are used up. -/
def inTurn? : List Change → Table EntityKey EntityRow → Option (Table EntityKey EntityRow)
  | [], rows => some rows
  | c :: cs, rows =>
    match refusal? rows c with
    | some _ => none
    | none => c.kind.nextVersion?.bind fun v => inTurn? cs (rows.put c.key (rowOf c v))

/-- Changes in turn that are all accepted: the first fits and is written, and the others are
accepted in turn. -/
theorem inTurn?_cons_eq_some {c : Change} {cs : List Change}
    {rows rows' : Table EntityKey EntityRow} :
    inTurn? (c :: cs) rows = some rows' ↔ refusal? rows c = none ∧
      ∃ v, c.kind.nextVersion? = some v ∧ inTurn? cs (rows.put c.key (rowOf c v)) = some rows' := by
  rw [inTurn?]
  cases refusal? rows c with
  | some e => simp
  | none => simp [Option.bind_eq_some_iff]

/-- What is written under another key does not matter for a change. -/
theorem refusal?_put_of_ne {rows : Table EntityKey EntityRow} {c c' : Change} {r : EntityRow}
    (hne : c'.key ≠ c.key) : refusal? (rows.put c.key r) c' = refusal? rows c' := by
  rw [refusal?, Table.find?_put, if_neg hne, refusal?]

/-- Changes of other keys fit as they did before a row was written. -/
theorem fits_put_iff {rows : Table EntityKey EntityRow} {c : Change} {cs : List Change}
    {r : EntityRow} (hapart : c.key ∉ cs.map Change.key) :
    Fits (rows.put c.key r) cs ↔ Fits rows cs := by
  refine forall₂_congr fun c' hc' => ?_
  have hne : c'.key ≠ c.key := fun heq => hapart (heq ▸ List.mem_map_of_mem hc')
  rw [refusal?_put_of_ne hne]

/-- Changes of different keys are accepted in turn when they all fit at once. -/
theorem inTurn?_eq_some_iff {cs : List Change} (hdistinct : (cs.map Change.key).Nodup)
    {rows rows' : Table EntityKey EntityRow} :
    inTurn? cs rows = some rows' ↔ Fits rows cs ∧ write? cs rows = some rows' := by
  -- on the changes: those that follow are of other keys, which the first one does not write
  induction cs generalizing rows with
  | nil => simp [inTurn?, write?, Fits]
  | cons c cs ih =>
    rw [List.map_cons, List.nodup_cons] at hdistinct
    obtain ⟨hapart, hrest⟩ := hdistinct
    rw [inTurn?_cons_eq_some, write?, Fits, List.forall_mem_cons, Option.bind_eq_some_iff,
      and_assoc]
    refine and_congr_right fun _ => ?_
    constructor
    · rintro ⟨v, hv, hturn⟩
      obtain ⟨hfits, hwrite⟩ := (ih hrest).mp hturn
      exact ⟨(fits_put_iff hapart).mp hfits, v, hv, hwrite⟩
    · rintro ⟨hfits, v, hv, hwrite⟩
      exact ⟨v, hv, (ih hrest).mpr ⟨(fits_put_iff hapart).mpr hfits, hwrite⟩⟩

/-- Changes that are accepted in turn are based on versions that are not below the first ones. -/
theorem version_le_base {cs : List Change} {rows rows' : Table EntityKey EntityRow}
    (h : inTurn? cs rows = some rows') :
    ∀ c ∈ cs, (versionAt rows c.key).getD 0 ≤ c.kind.base := by
  induction cs generalizing rows with
  | nil => simp
  | cons c cs ih =>
    obtain ⟨hfits, v, hv, hrest⟩ := inTurn?_cons_eq_some.mp h
    have hbase := base_of_fits hfits
    intro c' hc'
    rcases List.mem_cons.mp hc' with rfl | hc'
    · exact Nat.le_of_eq hbase.symm
    · have hle := ih hrest c' hc'
      rw [versionAt_put] at hle
      by_cases hkey : c'.key = c.key
      · -- writing the first change raised the version of the key
        rw [if_pos hkey, Option.getD_some, toNat_nextVersion hv, hbase, ← hkey] at hle
        exact Nat.le_of_succ_le hle
      · rwa [if_neg hkey] at hle

/-- Changes that fit at once and are accepted in turn are of different keys. -/
theorem nodup_of_inTurn {cs : List Change} {rows rows' : Table EntityKey EntityRow}
    (hfits : Fits rows cs) (h : inTurn? cs rows = some rows') : (cs.map Change.key).Nodup := by
  induction cs generalizing rows with
  | nil => exact List.nodup_nil
  | cons c cs ih =>
    -- the first change is written, and what follows is accepted beside it
    obtain ⟨hfirst, v, hv, hrest⟩ := inTurn?_cons_eq_some.mp h
    have hapart : c.key ∉ cs.map Change.key := by
      intro hmem
      obtain ⟨c', hc', hkey⟩ := List.mem_map.mp hmem
      -- both are based on the first version, but the second must be based on what the first left
      have hle := version_le_base hrest c' hc'
      rw [versionAt_put, if_pos hkey, Option.getD_some, toNat_nextVersion hv, base_of_fits hfirst,
        base_of_fits (hfits c' (List.mem_cons_of_mem _ hc')), hkey] at hle
      exact Nat.lt_irrefl _ hle
    have hfits' : Fits rows cs := fun c' hc' => hfits c' (List.mem_cons_of_mem _ hc')
    rw [List.map_cons, List.nodup_cons]
    exact ⟨hapart, ih ((fits_put_iff hapart).mpr hfits') hrest⟩

/-- The store accepts a change set and leaves these entity rows. -/
def Accepts (s : Store) (cs : ChangeSet) (rows : Table EntityKey EntityRow) : Prop :=
  (∃ receipt, ((commit cs).run s).1 = .ok (.ok receipt)) ∧ ((commit cs).run s).2.entities = rows

/-- A store without an armed fault accepts the change sets whose changes fit. -/
theorem accepts_iff {s : Store} {cs : ChangeSet} (unarmed : s.faults.commit = none)
    {rows : Table EntityKey EntityRow} :
    Accepts s cs rows ↔
      Fits s.entities cs.entities ∧ write? cs.entities s.entities = some rows := by
  have houtcome := commit_entities cs s
  rw [Accepts]
  -- of the three outcomes, only the written one is an acceptance
  generalize ((commit cs).run s).1 = answer at houtcome ⊢
  generalize ((commit cs).run s).2.entities = left at houtcome ⊢
  cases houtcome with
  | refused e reason => simp [reason unarmed]
  | written receipt rows _ fits result => simp [fits, result]
  | full rows _ _ result => simp [result]

/-- A commit agrees with its changes in turn when no key is changed twice: it is accepted just when
they are, and leaves the same rows.  Of a change set that changes a key twice, at most one of the
two accepts. -/
theorem commit_agrees_in_turn {s : Store} {cs : ChangeSet} (unarmed : s.faults.commit = none) :
    ((cs.entities.map Change.key).Nodup →
      ∀ rows, Accepts s cs rows ↔ inTurn? cs.entities s.entities = some rows) ∧
    (¬ (cs.entities.map Change.key).Nodup →
      ∀ rows, Accepts s cs rows → inTurn? cs.entities s.entities = none) := by
  constructor
  · intro hdistinct rows
    rw [accepts_iff unarmed, inTurn?_eq_some_iff hdistinct]
  · intro hrepeated rows haccepts
    obtain ⟨hfits, -⟩ := (accepts_iff unarmed).mp haccepts
    rw [Option.eq_none_iff_forall_ne_some]
    exact fun rows' hturn => hrepeated (nodup_of_inTurn hfits hturn)

/-- A change of an item, with the name of its writer for its state. -/
private def writing (id : String) (kind : ChangeKind) (writer : String) : Change :=
  ⟨"Item", id, kind, .text writer⟩

private def setOf (changes : List Change) : ChangeSet :=
  { transactionId := Uuid.ofNat 9, entities := changes }

/-- Two items are inserted at once as they are in turn. -/
theorem two_keys_inserted_as_in_turn : ∃ rows,
    inTurn? [writing "7" .insert "a", writing "8" .insert "b"] {} = some rows ∧
    Accepts {} (setOf [writing "7" .insert "a", writing "8" .insert "b"]) rows :=
  ⟨_, rfl, ((commit_agrees_in_turn rfl).1 (by decide) _).mpr rfl⟩

/-- An item that is inserted twice at once is accepted, and the second state stays; in turn, the
second insertion is refused.  So commits do not behave as their changes in turn. -/
theorem commit_overwrites :
    ¬ ∀ (s : Store) (cs : ChangeSet), s.faults.commit = none →
      ∀ rows, Accepts s cs rows ↔ inTurn? cs.entities s.entities = some rows := by
  intro hagree
  have haccepts : Accepts {} (setOf [writing "7" .insert "a", writing "7" .insert "b"])
      ⟨[(("Item", "7"), ⟨"Item", "7", 1, .text "b"⟩)]⟩ := ⟨⟨_, rfl⟩, rfl⟩
  have hturn := (hagree {} _ rfl _).mp haccepts
  cases hturn

end EventOutbox.Store
