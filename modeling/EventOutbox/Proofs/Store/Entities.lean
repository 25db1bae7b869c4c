import EventOutbox.Proofs.Store.Commit

/-!
# Entity rows under commits

A commit checks every change against the entity rows as they were, and then writes the changes one
after the other.  What it leaves is told by two things: whether the changes fit the rows, and the
rows after all changes are written.

## Main statement

- `Store.commit_entities`: how a commit ends, and the entity rows afterwards.
-/

namespace EventOutbox

namespace Table

variable {κ ρ : Type} [DecidableEq κ]

/-- A filed row is found under its key, and the other keys have the rows they had. -/
theorem find?_put (t : Table κ ρ) (k : κ) (r : ρ) (l : κ) :
    (t.put k r).find? l = if l = k then some r else t.find? l := by
  obtain ⟨rows⟩ := t
  simp only [find?, put]
  -- on the rows: the walk stops at the key, or files the row behind all others
  induction rows with
  | nil =>
    by_cases hl : l = k
    · simp [putRow, hl]
    · simp [putRow, hl, Ne.symm hl]
  | cons row rows ih =>
    obtain ⟨k', s⟩ := row
    by_cases hk : k' = k
    · -- the row of the key is replaced in place
      subst hk
      by_cases hl : l = k'
      · simp [putRow, hl]
      · simp [putRow, hl, Ne.symm hl]
    · rw [putRow, if_neg hk]
      by_cases hl : k' = l
      · subst hl
        simp [hk]
      · simpa [List.find?_cons, hl] using ih

end Table

/-- The version that a change is based on; no version is below those of rows. -/
def ChangeKind.base : ChangeKind → Nat
  | .insert => 0
  | .update expected => expected.toNat

namespace Store

/-! ## §1 Changes that fit -/

/-- No change is refused by the rows. -/
def Fits (rows : Table EntityKey EntityRow) (cs : List Change) : Prop :=
  ∀ c ∈ cs, refusal? rows c = none

/-- The first refusal is missing when there is none. -/
theorem findSome?_refusal?_eq_none_iff {rows : Table EntityKey EntityRow} {cs : List Change} :
    cs.findSome? (refusal? rows) = none ↔ Fits rows cs :=
  List.findSome?_eq_none_iff

/-- A change fits when it is new and so is its key, or when it expects the version that is stored
under its key. -/
theorem refusal?_eq_none_iff {rows : Table EntityKey EntityRow} {c : Change} :
    refusal? rows c = none ↔ (c.kind = .insert ∧ rows.find? c.key = none) ∨
      ∃ row, rows.find? c.key = some row ∧ c.kind = .update row.version := by
  rw [refusal?]
  cases hkind : c.kind with
  | insert => cases hrow : rows.find? c.key <;> simp
  | update expected =>
    cases hrow : rows.find? c.key with
    | none => simp
    | some row =>
      by_cases hversion : row.version = expected
      · simp [hversion]
      · simp [hversion, Ne.symm hversion]

/-! ## §2 Versions -/

/-- The version stored under a key; `none` when the key has no row. -/
def versionAt (rows : Table EntityKey EntityRow) (k : EntityKey) : Option Nat :=
  (rows.find? k).map fun row => row.version.toNat

/-- A change that fits is based on the version that is stored. -/
theorem base_of_fits {rows : Table EntityKey EntityRow} {c : Change}
    (h : refusal? rows c = none) : c.kind.base = (versionAt rows c.key).getD 0 := by
  rcases refusal?_eq_none_iff.mp h with ⟨hkind, hrow⟩ | ⟨row, hrow, hkind⟩
  · simp [hkind, ChangeKind.base, versionAt, hrow]
  · simp [hkind, ChangeKind.base, versionAt, hrow]

/-- The next version of a change is the one after its base. -/
theorem toNat_nextVersion {kind : ChangeKind} {v : UInt64} (h : kind.nextVersion? = some v) :
    v.toNat = kind.base + 1 := by
  cases kind with
  | insert =>
    cases h
    rfl
  | update expected =>
    rw [ChangeKind.nextVersion?] at h
    split at h
    · next room =>
      cases h
      rw [UInt64.toNat_add]
      exact Nat.mod_eq_of_lt room
    · cases h

/-- A change has a next version unless versions are used up. -/
theorem exists_nextVersion {kind : ChangeKind} (room : kind.base + 1 < UInt64.size) :
    ∃ v, kind.nextVersion? = some v := by
  cases kind with
  | insert => exact ⟨1, rfl⟩
  | update expected => exact ⟨expected + 1, if_pos room⟩

/-- Writing a row changes the version of its key only. -/
theorem versionAt_put (rows : Table EntityKey EntityRow) (c : Change) (v : UInt64)
    (k : EntityKey) : versionAt (rows.put c.key (rowOf c v)) k =
      if k = c.key then some v.toNat else versionAt rows k := by
  rw [versionAt, Table.find?_put]
  split <;> rfl

/-! ## §3 Changes that are written -/

/-- The rows after changes are written one after the other, unchecked; `none` when the versions of
one are used up. -/
def write? : List Change → Table EntityKey EntityRow → Option (Table EntityKey EntityRow)
  | [], rows => some rows
  | c :: cs, rows => c.kind.nextVersion?.bind fun v => write? cs (rows.put c.key (rowOf c v))

/-- What the store does with the changes is to write them, for as long as there are versions. -/
theorem applyChanges_eq_write? (cs : List Change) (s : Store) :
    match write? cs s.entities with
    | some entities => (applyChanges cs).run s = (.ok (), { s with entities })
    | none => ((applyChanges cs).run s).1 = .error .versionFull := by
  induction cs generalizing s with
  | nil => rfl
  | cons c cs ih =>
    rw [write?]
    cases hv : c.kind.nextVersion? with
    | none =>
      have habort : c.nextVersion = (.abort .versionFull : Action Store UInt64) := by
        rw [Change.nextVersion, hv]
      have hrun : (applyChange c).run s = (.error .versionFull, s) := by
        rw [applyChange, habort, Action.run_bind_of_error (Action.run_abort _ s)]
      rw [applyChanges, Action.run_bind_of_error hrun]
      rfl
    | some v =>
      rw [applyChanges, Action.run_bind_of_ok (applyChange_run hv s)]
      exact ih { s with entities := s.entities.put c.key (rowOf c v) }

/-- How a commit ends, and the entity rows afterwards. -/
inductive EntityOutcome (s : Store) (cs : ChangeSet) :
    Except Abort (Except StoreError Receipt) → Table EntityKey EntityRow → Prop where
  /-- A fault was armed, or a change does not fit. -/
  | refused (e : StoreError)
      (reason : s.faults.commit = none → ¬ Fits s.entities cs.entities) :
      EntityOutcome s cs (.ok (.error e)) s.entities
  /-- All changes fit and are written. -/
  | written (receipt : Receipt) (rows : Table EntityKey EntityRow)
      (unarmed : s.faults.commit = none) (fits : Fits s.entities cs.entities)
      (result : write? cs.entities s.entities = some rows) :
      EntityOutcome s cs (.ok (.ok receipt)) rows
  /-- All changes fit, and the versions of one are used up. -/
  | full (rows : Table EntityKey EntityRow)
      (unarmed : s.faults.commit = none) (fits : Fits s.entities cs.entities)
      (result : write? cs.entities s.entities = none) :
      EntityOutcome s cs (.error .versionFull) rows

/-- How a commit ends, told of the entity rows alone. -/
theorem commit_entities (cs : ChangeSet) (s : Store) :
    EntityOutcome s cs ((commit cs).run s).1 ((commit cs).run s).2.entities := by
  rw [commit, Action.run_bind_of_ok (Action.run_ask _ s)]
  cases hfault : s.faults.commit with
  | some e => exact .refused e fun hnone => by simp [hfault] at hnone
  | none =>
    cases hrefusal : cs.entities.findSome? (refusal? s.entities) with
    | some e =>
      -- a set that fits would not have been refused
      refine .refused e fun _ hfits => ?_
      rw [findSome?_refusal?_eq_none_iff.mpr hfits] at hrefusal
      cases hrefusal
    | none =>
      have hfits := findSome?_refusal?_eq_none_iff.mp hrefusal
      have happly := applyChanges_eq_write? cs.entities s
      cases hwrite : write? cs.entities s.entities with
      | none =>
        rw [hwrite] at happly
        simp only [Action.run_bind_of_error (Prod.ext happly rfl)]
        exact .full _ hfault hfits hwrite
      | some rows =>
        -- inserting messages always answers and touches no entity row
        rw [hwrite] at happly
        have hinsert := insertMessages_eq { s with entities := rows } cs.messages
        simp only [Action.run_bind_of_ok happly, Action.run_bind_of_ok (Action.run_step _ _),
          Action.run_pure, hinsert]
        exact .written _ rows hfault hfits hwrite

end Store

end EventOutbox
