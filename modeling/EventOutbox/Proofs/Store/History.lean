import EventOutbox.Proofs.Store.Entities

/-!
# Histories of commits

Writers commit change sets one after the other, and each commit is accepted or not.  The version
stored under a key counts the accepted commits that touched the key: an accepted change is based on
the version that its key has, and leaves the next one, however often the change set mentions the
key.  So of the writers that loaded one version of a row, one at most gets its commit accepted.

## Main statement

- `Store.versions_count_commits`
-/

namespace EventOutbox

/-- Whether a change set changes the row of a key. -/
def ChangeSet.touches (cs : ChangeSet) (k : EntityKey) : Bool :=
  cs.entities.any fun c => c.key = k

/-- Whether a change set changes the row of a key in a given way. -/
def ChangeSet.makes (cs : ChangeSet) (k : EntityKey) (kind : ChangeKind) : Bool :=
  cs.entities.any fun c => c.key = k && c.kind = kind

/-- A change set touches the keys of its changes. -/
theorem ChangeSet.touches_iff {cs : ChangeSet} {k : EntityKey} :
    cs.touches k = true ↔ ∃ c ∈ cs.entities, c.key = k := by
  simp [touches]

theorem ChangeSet.makes_iff {cs : ChangeSet} {k : EntityKey} {kind : ChangeKind} :
    cs.makes k kind = true ↔ ∃ c ∈ cs.entities, c.key = k ∧ c.kind = kind := by
  simp [makes]

namespace Store

/-! ## §1 Versions -/

/-- Writing changes leaves the keys that they touch at the version after their base, if all changes
of one key have one base. -/
theorem versionAt_write {cs : List Change} {base : EntityKey → Nat}
    (hbase : ∀ c ∈ cs, c.kind.base = base c.key)
    (room : ∀ c ∈ cs, base c.key + 1 < UInt64.size) (rows : Table EntityKey EntityRow) :
    ∃ rows', write? cs rows = some rows' ∧ ∀ k, versionAt rows' k =
      if ∃ c ∈ cs, c.key = k then some (base k + 1) else versionAt rows k := by
  -- on the changes: the first one leaves rows to which the others apply as before
  induction cs generalizing rows with
  | nil => exact ⟨rows, rfl, fun k => by simp⟩
  | cons c cs ih =>
    have hc := hbase c List.mem_cons_self
    obtain ⟨v, hv⟩ := exists_nextVersion (hc ▸ room c List.mem_cons_self)
    obtain ⟨rows', hwrite, hversions⟩ := ih (fun c hc => hbase c (List.mem_cons_of_mem _ hc))
      (fun c hc => room c (List.mem_cons_of_mem _ hc)) (rows.put c.key (rowOf c v))
    refine ⟨rows', ?_, fun k => ?_⟩
    · rw [write?, hv, Option.bind_some, hwrite]
    · rw [hversions, versionAt_put]
      by_cases hlater : ∃ c' ∈ cs, c'.key = k
      · -- a later change of the key has the last word, and the same base
        obtain ⟨c', hc', hkey⟩ := hlater
        rw [if_pos ⟨c', hc', hkey⟩, if_pos ⟨c', List.mem_cons_of_mem _ hc', hkey⟩]
      · rw [if_neg hlater]
        by_cases hkey : k = c.key
        · rw [if_pos hkey, if_pos ⟨c, List.mem_cons_self, hkey.symm⟩, toNat_nextVersion hv, hc,
            hkey]
        · rw [if_neg hkey, if_neg]
          rintro ⟨c', hc', rfl⟩
          rcases List.mem_cons.mp hc' with rfl | hc'
          · exact hkey rfl
          · exact hlater ⟨c', hc', rfl⟩

/-! ## §2 Histories -/

/-- A commit that was tried, and its answer. -/
structure Trial where
  changes : ChangeSet
  answer : Except Abort (Except StoreError Receipt)

/-- Whether the store accepted the change set. -/
def Trial.accepted (t : Trial) : Bool :=
  match t.answer with
  | .ok (.ok _) => true
  | _ => false

/-- The trial of a change set on a store. -/
def trial (cs : ChangeSet) (s : Store) : Trial :=
  ⟨cs, ((commit cs).run s).1⟩

/-- The stores that come about by commits, with the commits that were tried, from a store without
entity rows.  In between, the store may change but for its entity rows: faults are armed, rows are
delivered. -/
inductive History : List Trial → Store → Prop where
  | start {s} (empty : s.entities = {}) : History [] s
  | commit {past s} (history : History past s) (cs : ChangeSet) :
      History (past ++ [trial cs s]) ((commit cs).run s).2
  | elsewhere {past s s'} (history : History past s) (sameRows : s'.entities = s.entities) :
      History past s'

/-- The number of accepted commits that touched a key. -/
def touchedBy (past : List Trial) (k : EntityKey) : Nat :=
  past.countP fun t => t.accepted && t.changes.touches k

/-- The number of accepted commits that changed the row of a key in a given way. -/
def madeBy (past : List Trial) (k : EntityKey) (kind : ChangeKind) : Nat :=
  past.countP fun t => t.accepted && t.changes.makes k kind

theorem touchedBy_le_length (past : List Trial) (k : EntityKey) :
    touchedBy past k ≤ past.length :=
  List.countP_le_length

/-- A trial more counts if it was accepted and touched the key. -/
theorem touchedBy_concat (past : List Trial) (t : Trial) (k : EntityKey) :
    touchedBy (past ++ [t]) k =
      touchedBy past k + if t.accepted && t.changes.touches k then 1 else 0 := by
  rw [touchedBy, List.countP_append, List.countP_singleton]
  rfl

/-- A trial more counts if it was accepted and changed the row in this way. -/
theorem madeBy_concat (past : List Trial) (t : Trial) (k : EntityKey) (kind : ChangeKind) :
    madeBy (past ++ [t]) k kind =
      madeBy past k kind + if t.accepted && t.changes.makes k kind then 1 else 0 := by
  rw [madeBy, List.countP_append, List.countP_singleton]
  rfl

/-! ## §3 The invariant -/

/-- Every commit answers; versions count the accepted commits; and these were based on versions
below those that are stored now, no two of them on one version. -/
structure Counted (past : List Trial) (rows : Table EntityKey EntityRow) : Prop where
  answered : ∀ t ∈ past, ∃ answer, t.answer = .ok answer
  version : ∀ k, versionAt rows k =
    if touchedBy past k = 0 then none else some (touchedBy past k)
  based : ∀ t ∈ past, t.accepted = true → ∀ c ∈ t.changes.entities,
    c.kind.base < touchedBy past c.key
  once : ∀ k kind, madeBy past k kind ≤ 1

theorem counted_empty : Counted [] {} where
  answered := by simp
  version := fun _ => rfl
  based := by simp
  once := fun _ _ => Nat.zero_le _

/-- The stored version is the count, where no row stands for none. -/
theorem Counted.getD_versionAt {past : List Trial} {rows : Table EntityKey EntityRow}
    (h : Counted past rows) (k : EntityKey) : (versionAt rows k).getD 0 = touchedBy past k := by
  rw [h.version]
  split
  · next hzero => exact hzero.symm
  · rfl

/-- What the next commit does to versions: it always answers, and when it is accepted, all its
changes are based on the stored versions, and the keys that it touches have the next ones. -/
theorem Counted.next {past : List Trial} {s : Store} (h : Counted past s.entities)
    (room : past.length + 1 < UInt64.size) (cs : ChangeSet) :
    (∃ answer, (trial cs s).answer = .ok answer) ∧
    ((trial cs s).accepted = true → ∀ c ∈ cs.entities, c.kind.base = touchedBy past c.key) ∧
    ∀ k, versionAt ((commit cs).run s).2.entities k =
      if (trial cs s).accepted && cs.touches k then some (touchedBy past k + 1)
      else versionAt s.entities k := by
  have houtcome := commit_entities cs s
  -- changes that fit have the stored version for their base, which is the count so far
  have hbase (hfits : Fits s.entities cs.entities) :
      ∀ c ∈ cs.entities, c.kind.base = touchedBy past c.key := by
    intro c hc
    rw [base_of_fits (hfits c hc), h.getD_versionAt]
  have hwritten (hfits : Fits s.entities cs.entities) := versionAt_write (hbase hfits)
    (fun c _ => Nat.lt_of_le_of_lt (Nat.succ_le_succ (touchedBy_le_length past c.key)) room)
    s.entities
  rw [trial]
  -- the outcome is all that is known of the answer and the rows
  generalize ((commit cs).run s).1 = answer at houtcome ⊢
  generalize ((commit cs).run s).2.entities = rows at houtcome ⊢
  cases houtcome with
  | refused e reason =>
    exact ⟨⟨_, rfl⟩, fun haccepted => by simp [Trial.accepted] at haccepted,
      fun k => by simp [Trial.accepted]⟩
  | written receipt rows unarmed fits result =>
    refine ⟨⟨_, rfl⟩, fun _ => hbase fits, fun k => ?_⟩
    obtain ⟨rows', hwrite, hversions⟩ := hwritten fits
    rw [result, Option.some.injEq] at hwrite
    rw [hwrite, hversions]
    simp only [Trial.accepted, Bool.true_and, ChangeSet.touches_iff]
  | full rows unarmed fits result =>
    -- versions are not used up: there were too few commits
    obtain ⟨rows', hwrite, -⟩ := hwritten fits
    rw [result] at hwrite
    cases hwrite

/-- A commit after few enough others keeps the count. -/
theorem Counted.commit {past : List Trial} {s : Store} (h : Counted past s.entities)
    (room : past.length + 1 < UInt64.size) (cs : ChangeSet) :
    Counted (past ++ [trial cs s]) ((commit cs).run s).2.entities := by
  obtain ⟨hanswer, hbase, hversion⟩ := h.next room cs
  have hchanges : (trial cs s).changes = cs := rfl
  constructor
  case answered =>
    intro t ht
    rcases List.mem_append.mp ht with ht | ht
    · exact h.answered t ht
    · rw [List.mem_singleton.mp ht]
      exact hanswer
  case version =>
    intro k
    rw [hversion, touchedBy_concat, hchanges]
    by_cases htouched : ((trial cs s).accepted && cs.touches k) = true
    · rw [if_pos htouched, if_pos htouched, if_neg (Nat.succ_ne_zero _)]
    · rw [if_neg htouched, if_neg htouched, h.version, Nat.add_zero]
  case based =>
    intro t ht haccepted c hc
    rw [touchedBy_concat]
    rcases List.mem_append.mp ht with ht | ht
    -- what is counted never falls, so earlier bases stay below
    · exact Nat.lt_of_lt_of_le (h.based t ht haccepted c hc) (Nat.le_add_right _ _)
    · rw [List.mem_singleton.mp ht] at haccepted hc
      have htouches : cs.touches c.key = true := ChangeSet.touches_iff.mpr ⟨c, hc, rfl⟩
      rw [hchanges, haccepted, htouches, hbase haccepted c hc]
      exact Nat.lt_succ_self _
  case once =>
    intro k kind
    rw [madeBy_concat, hchanges]
    by_cases hmade : ((trial cs s).accepted && cs.makes k kind) = true
    · -- its base is the version of now, on which no earlier commit was based
      rw [Bool.and_eq_true, ChangeSet.makes_iff] at hmade
      obtain ⟨haccepted, c, hc, rfl, rfl⟩ := hmade
      have hnone : madeBy past c.key c.kind = 0 := by
        rw [madeBy, List.countP_eq_zero]
        intro t ht hearlier
        rw [Bool.and_eq_true, ChangeSet.makes_iff] at hearlier
        obtain ⟨haccepted', c', hc', hkey, hkind⟩ := hearlier
        have hbelow := h.based t ht haccepted' c' hc'
        rw [hkey, hkind, hbase haccepted c hc] at hbelow
        exact Nat.lt_irrefl _ hbelow
      rw [hnone, Nat.zero_add]
      split
      · exact Nat.le_refl 1
      · exact Nat.zero_le 1
    · rw [if_neg hmade, Nat.add_zero]
      exact h.once k kind

/-- The count holds in every history that is short enough for versions to last. -/
theorem counted_of_history {past : List Trial} {s : Store} (h : History past s)
    -- the bound is on the whole history, and hence on each part of it
    (short : past.length < UInt64.size) : Counted past s.entities := by
  induction h with
  | start empty =>
    rw [empty]
    exact counted_empty
  | commit history cs ih =>
    rw [List.length_append, List.length_singleton] at short
    exact (ih (Nat.lt_of_succ_lt short)).commit short cs
  | elsewhere _ sameRows ih =>
    rw [sameRows]
    exact ih short

/-! ## §4 Versions count commits -/

/-- What a history of commits says about the versions of entity rows. -/
structure VersionsCount (past : List Trial) (s : Store) : Prop where
  /-- No commit ended early. -/
  answered : ∀ t ∈ past, ∃ answer, t.answer = .ok answer
  /-- The version of a key is the number of accepted commits that touched it, and a key that none
  touched has no row. -/
  version : ∀ k, versionAt s.entities k =
    if touchedBy past k = 0 then none else some (touchedBy past k)
  /-- The next commit, unless versions may be used up, raises the version of each key that it
  touches by one when it is accepted, and no other version. -/
  next : past.length + 1 < UInt64.size → ∀ cs k,
    (versionAt ((commit cs).run s).2.entities k).getD 0 = (versionAt s.entities k).getD 0 +
      if (trial cs s).accepted && cs.touches k then 1 else 0
  /-- One accepted commit at most inserted the row of a key. -/
  inserted_once : ∀ k, madeBy past k .insert ≤ 1
  /-- Of the commits that updated the row of a key at one version, one at most was accepted. -/
  updated_once : ∀ k v, madeBy past k (.update v) ≤ 1

/-- In every history of fewer than 2⁶⁴ commits, versions count the accepted commits. -/
theorem versions_count_commits {past : List Trial} {s : Store} (h : History past s)
    (short : past.length < UInt64.size) : VersionsCount past s := by
  have hcounted := counted_of_history h short
  constructor
  case answered => exact hcounted.answered
  case version => exact hcounted.version
  case next =>
    intro room cs k
    -- whether there was a row or not, its version counts the commits so far
    rw [(hcounted.next room cs).2.2 k, ← hcounted.getD_versionAt]
    split <;> rfl
  case inserted_once => exact fun k => hcounted.once k .insert
  case updated_once => exact fun k v => hcounted.once k (.update v)

/-- A change of the item that two writers work on. -/
private def stocked (kind : ChangeKind) : ChangeSet :=
  { transactionId := Uuid.ofNat 9, entities := [⟨"Item", "7", kind, .object []⟩] }

private def competing : Store :=
  ((commit (stocked (.update 1))).run ((commit (stocked (.update 1))).run
    ((commit (stocked .insert)).run {}).2).2).2

/-- An item is inserted, and of two writers that loaded its first version one is accepted. -/
theorem one_of_two_writers_accepted : ∃ past, past.map Trial.accepted = [true, true, false] ∧
    versionAt competing.entities ("Item", "7") = some 2 ∧ VersionsCount past competing := by
  have hstart : History [] {} := .start rfl
  have hinserted := hstart.commit (stocked .insert)
  have hcompeting : History _ competing :=
    (hinserted.commit (stocked (.update 1))).commit (stocked (.update 1))
  exact ⟨_, by decide +kernel, by decide +kernel, versions_count_commits hcompeting (by decide)⟩

end Store

end EventOutbox
