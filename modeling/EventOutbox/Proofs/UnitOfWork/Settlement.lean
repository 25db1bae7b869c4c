import EventOutbox.Proofs.Store.Entities
import EventOutbox.Proofs.UnitOfWork.Outcome
import EventOutbox.Shop

/-!
# What a successful commit settles

A commit that succeeds leaves every tracked entity at the version that its row has, without events,
and as unchanged; the events are the new rows of the outbox.  Changes are gathered from some of the
tracked entities only, and versions are dealt out to all of them: the two lists are brought together
here.

## Main statements

- `Store.written_of_commit`: the store after an accepted commit.
- `Store.find?_of_write?`: under each key, the last change has the last word.
- `UnitOfWork.gather_entities`: the changes are those of the entities that are not unchanged.
- `UnitOfWork.commit_settles`: everything that a successful commit leaves.
-/

namespace EventOutbox

/-! ## §1 Accepted change sets -/

namespace Store

/-- What an accepted commit leaves: all changes fitted the rows and are written, and the messages
with new identifiers are added. -/
structure Written (cs : ChangeSet) (receipt : Receipt) (s s' : Store) : Prop where
  fits : Fits s.entities cs.entities
  receipt : receipt = ⟨cs.entities.length, (novel s.ids cs.messages).length⟩
  rows : write? cs.entities s.entities = some s'.entities
  outbox : s'.outbox = s.outbox ++ numbered s.nextSeq (novel s.ids cs.messages)

/-- A commit that answers with a receipt has checked and written all of its changes. -/
theorem written_of_commit {cs : ChangeSet} {receipt : Receipt} {s s' : Store}
    (h : (commit cs).run s = (.ok (.ok receipt), s')) : Written cs receipt s s' := by
  rw [commit, Action.run_bind_of_ok (Action.run_ask _ s)] at h
  -- an armed fault, a refusal and a full version each answer otherwise, so none of them came up
  cases hfault : s.faults.commit with
  | some e =>
    rw [hfault] at h
    cases h
  | none =>
    simp only [hfault] at h
    cases hrefusal : cs.entities.findSome? (refusal? s.entities) with
    | some e =>
      rw [hrefusal] at h
      cases h
    | none =>
      simp only [hrefusal] at h
      have happly := applyChanges_eq_write? cs.entities s
      cases hwrite : write? cs.entities s.entities with
      | none =>
        rw [hwrite] at happly
        rw [Action.run_bind_of_error (Prod.ext happly rfl)] at h
        cases h
      | some rows =>
        rw [hwrite] at happly
        have hinsert := insertMessages_eq { s with entities := rows } cs.messages
        simp only [Action.run_bind_of_ok happly, Action.run_bind_of_ok (Action.run_step _ _),
          Action.run_pure, hinsert] at h
        cases h
        exact ⟨findSome?_refusal?_eq_none_iff.mp hrefusal, rfl, hwrite, rfl⟩

/-- Under a key that changes mention, the last one of them has the last word; the other keys have
the rows they had. -/
theorem find?_of_write? {cs : List Change} {rows rows' : Table EntityKey EntityRow}
    (h : write? cs rows = some rows') (k : EntityKey) :
    ((∀ c ∈ cs, c.key ≠ k) ∧ rows'.find? k = rows.find? k) ∨
      ∃ c ∈ cs, ∃ v, c.key = k ∧ c.kind.nextVersion? = some v ∧
        rows'.find? k = some (rowOf c v) := by
  -- the induction is over the changes, from the rows that the first one leaves
  induction cs generalizing rows with
  | nil =>
    cases h
    exact .inl ⟨by simp, rfl⟩
  | cons c cs ih =>
    obtain ⟨v, hv, hrest⟩ := Option.bind_eq_some_iff.mp h
    rcases ih hrest with ⟨hnone, hfind⟩ | ⟨c', hc', v', hkey, hv', hfind⟩
    · -- no later change has the key, so this one has the last word under its own
      rw [Table.find?_put] at hfind
      by_cases hk : k = c.key
      · rw [if_pos hk] at hfind
        exact .inr ⟨c, List.mem_cons_self, v, hk.symm, hv, hfind⟩
      · rw [if_neg hk] at hfind
        exact .inl ⟨List.forall_mem_cons.mpr ⟨Ne.symm hk, hnone⟩, hfind⟩
    · -- a later change of the key overwrites this one
      exact .inr ⟨c', List.mem_cons_of_mem _ hc', v', hkey, hv', hfind⟩

/-- All changes of one key that fit the rows lead to one version. -/
theorem nextVersion_eq_of_fits {rows : Table EntityKey EntityRow} {cs : List Change}
    (hfits : Fits rows cs) {c c' : Change} (hc : c ∈ cs) (hc' : c' ∈ cs) (hkey : c'.key = c.key)
    {v v' : UInt64} (hv : c.kind.nextVersion? = some v) (hv' : c'.kind.nextVersion? = some v') :
    v' = v := by
  have hbase : c'.kind.base = c.kind.base := by
    rw [base_of_fits (hfits c hc), base_of_fits (hfits c' hc'), hkey]
  rw [← UInt64.toNat_inj, toNat_nextVersion hv, toNat_nextVersion hv', hbase]

end Store

variable {κ W : Type} [EventCatalog κ]

/-! ## §2 Changes of tracked entities -/

namespace Tracked

/-- Whether the commit writes the entity's row. -/
def writes (t : Tracked κ) : Bool :=
  t.state ≠ .unchanged

/-- Exactly the entities that are tracked as unchanged have no change to make. -/
theorem changeKind?_eq_none_iff {t : Tracked κ} : t.changeKind? = none ↔ t.writes = false := by
  obtain ⟨entity, state⟩ := t
  cases state <;> simp [changeKind?, writes]

/-- An entity whose row is not written has no change, and any other one has its own. -/
theorem changes_of_writes {t : Tracked κ} {cs : List Change} (h : t.changes = .ok cs) :
    (t.writes = false ∧ cs = []) ∨ (t.writes = true ∧ ∃ c, cs = [c] ∧ t.IsChanged c) := by
  rcases changes_cases h with ⟨hkind, rfl⟩ | ⟨c, hchanged, rfl⟩
  · exact .inl ⟨changeKind?_eq_none_iff.mp hkind, rfl⟩
  · have hwrites : t.writes = true := by
      rw [← Bool.not_eq_false, ← changeKind?_eq_none_iff, hchanged.kind]
      simp
    exact .inr ⟨hwrites, c, rfl, hchanged⟩

/-- The version that the entity takes with a commit. -/
def IsVersioned (t : Tracked κ) (version : Option UInt64) : Prop :=
  match t.changeKind? with
  | none => version = none
  | some kind => ∃ v, kind.nextVersion? = some v ∧ version = some v

end Tracked

namespace UnitOfWork

open Tracked

/-- The changes that are gathered are those of the entities that are not unchanged, in tracking
order. -/
theorem gather_entities {a : Attempt} {ts : List (Tracked κ)} {cs : ChangeSet}
    (h : gather a ts = .ok cs) :
    List.Forall₂ Tracked.IsChanged (ts.filter Tracked.writes) cs.entities := by
  induction ts generalizing cs with
  | nil =>
    cases h
    exact .nil
  | cons t ts ih =>
    obtain ⟨entities, messages, rest, hentities, -, hrest, rfl⟩ := gather_cons h
    rcases changes_of_writes hentities with ⟨hwrites, rfl⟩ | ⟨hwrites, c, rfl, hchanged⟩
    · -- the entity is left out of both lists
      have htail := ih hrest
      rw [List.filter_cons_of_neg (by simp [hwrites])]
      exact htail
    · rw [List.filter_cons_of_pos hwrites]
      exact .cons hchanged (ih hrest)

/-- The versions are dealt out to all entities, in tracking order. -/
theorem forall₂_versions? {ts : List (Tracked κ)} {vs : List (Option UInt64)}
    (h : versions? ts = some vs) : List.Forall₂ Tracked.IsVersioned ts vs := by
  induction ts generalizing vs with
  | nil =>
    cases h
    exact .nil
  | cons t ts ih =>
    rw [versions?] at h
    cases hkind : t.changeKind? with
    | none =>
      simp only [hkind, Option.map_eq_some_iff] at h
      obtain ⟨rest, hrest, rfl⟩ := h
      refine .cons ?_ (ih hrest)
      rw [IsVersioned, hkind]
    | some kind =>
      simp only [hkind, Option.bind_eq_some_iff, Option.map_eq_some_iff] at h
      obtain ⟨v, hv, rest, hrest, rfl⟩ := h
      refine .cons ?_ (ih hrest)
      rw [IsVersioned, hkind]
      exact ⟨v, hv, rfl⟩

end UnitOfWork

/-! ## §3 Settled entities -/

/-- There is nothing to write for the entity. -/
structure Tracked.IsSettled (t : Tracked κ) : Prop where
  unchanged : t.state = .unchanged
  drained : t.entity.buffer.pending = []

namespace Tracked

/-- Settling leaves nothing to write. -/
theorem isSettled_settle (version : Option UInt64) (t : Tracked κ) :
    (t.settle version).IsSettled :=
  ⟨rfl, rfl⟩

/-- Nothing of a settled entity is stamped. -/
theorem IsSettled.stamp_eq {t : Tracked κ} (h : t.IsSettled) (now : Instant) (actor : String) :
    t.stamp now actor = t := by
  obtain ⟨⟨_, _, _, audit, _, _⟩, state⟩ := t
  obtain rfl : state = .unchanged := h.unchanged
  cases audit <;> rfl

/-- Settling a settled entity without a version changes nothing. -/
theorem IsSettled.settle_eq {t : Tracked κ} (h : t.IsSettled) : t.settle none = t := by
  obtain ⟨⟨_, _, _, _, ⟨pending⟩, _⟩, state⟩ := t
  obtain rfl : state = .unchanged := h.unchanged
  obtain rfl : pending = [] := h.drained
  rfl

end Tracked

namespace UnitOfWork

open Tracked

/-- Settled entities have nothing to gather. -/
theorem gather_of_settled (a : Attempt) {ts : List (Tracked κ)} (h : ∀ t ∈ ts, t.IsSettled) :
    gather a ts = .ok { transactionId := a.transactionId } := by
  induction ts with
  | nil => rfl
  | cons t ts ih =>
    obtain ⟨ht, hts⟩ := List.forall_mem_cons.mp h
    have hchanges : t.changes = .ok [] := by
      rw [changes, changeKind?, ht.unchanged]
    have hmessages : t.entity.buffer.pending.mapM (t.message a) = .ok [] := by
      rw [ht.drained]
      rfl
    rw [gather, hchanges, hmessages, ih hts]
    rfl

/-- Settled entities take no versions. -/
theorem versions?_of_settled {ts : List (Tracked κ)} (h : ∀ t ∈ ts, t.IsSettled) :
    versions? ts = some (ts.map fun _ => none) := by
  induction ts with
  | nil => rfl
  | cons t ts ih =>
    obtain ⟨ht, hts⟩ := List.forall_mem_cons.mp h
    have hkind : t.changeKind? = none := by rw [changeKind?, ht.unchanged]
    simp only [versions?, hkind, ih hts, Option.map_some, List.map_cons]

/-- Settling a unit of work in which everything is settled changes nothing. -/
theorem settle_of_settled {u : UnitOfWork κ} (h : ∀ t ∈ u.tracked, t.IsSettled) :
    u.settle (u.tracked.map fun _ => none) = u := by
  obtain ⟨ts⟩ := u
  simp only [settle, mk.injEq, List.zipWith_map_right, List.zipWith_self]
  conv_rhs => rw [← List.map_id ts]
  exact List.map_congr_left fun t ht => (h t ht).settle_eq

/-- A change set is empty only if there is nothing to write for any entity. -/
theorem settled_of_empty {a : Attempt} {ts : List (Tracked κ)} {cs : ChangeSet}
    (h : gather a ts = .ok cs) (empty : cs.isEmpty = true) : ∀ t ∈ ts, t.IsSettled := by
  rw [ChangeSet.isEmpty, Bool.and_eq_true, List.isEmpty_iff, List.isEmpty_iff] at empty
  intro t ht
  constructor
  case unchanged =>
    -- an entity to be written would have its change in the set
    by_contra hstate
    have hwrites : t ∈ ts.filter Tracked.writes :=
      List.mem_filter.mpr ⟨ht, decide_eq_true hstate⟩
    obtain ⟨c, hc, -⟩ := exists_right_of_forall₂ (gather_entities h) hwrites
    rw [empty.1] at hc
    simp at hc
  case drained =>
    -- an event that waits would have its row in the set
    by_contra hpending
    obtain ⟨e, he⟩ := List.exists_mem_of_ne_nil _ hpending
    have hraised : (t, e) ∈ raisedBy ts :=
      List.mem_flatMap.mpr ⟨t, ht, List.mem_map.mpr ⟨e, he, rfl⟩⟩
    obtain ⟨m, hm, -⟩ := exists_right_of_forall₂ (gather_messages h) hraised
    rw [empty.2] at hm
    simp at hm

/-- A commit of settled entities writes nothing, whatever store and faults it would meet. -/
theorem commit_of_settled (store : Committer W) {a : Attempt} (uncancelled : a.cancelled = false)
    {u : UnitOfWork κ} (h : ∀ t ∈ u.tracked, t.IsSettled) (w : W) :
    (commit store a).run (u, w) = (.ok (.ok ⟨a.transactionId, 0, 0⟩), (u, w)) := by
  have hstamp : u.stamp a = u := by
    obtain ⟨ts⟩ := u
    simp only [stamp, mk.injEq]
    conv_rhs => rw [← List.map_id ts]
    exact List.map_congr_left fun t ht => (h t ht).stamp_eq _ _
  rw [commit, uncancelled, if_neg Bool.false_ne_true,
    Action.run_bind_of_ok (Action.run_update _ _), hstamp,
    Action.run_bind_of_ok (Action.run_ask _ _), gather_of_settled a h]
  rfl

/-! ## §4 Successful commits -/

/-- What a commit that succeeds went through: the stamped entities were gathered, the store accepted
what was gathered, and the entities took their versions. -/
structure Passed (cell : Cell W Store) (a : Attempt) (u : UnitOfWork κ) (w : W)
    (summary : CommitSummary) (y : UnitOfWork κ × W) (changes : ChangeSet)
    (versions : List (Option UInt64)) (receipt : Receipt) (s : Store) : Prop where
  gathered : gather a (u.stamp a).tracked = .ok changes
  versioned : versions? (u.stamp a).tracked = some versions
  written : Store.Written changes receipt (cell.get w) s
  summary : summary = ⟨a.transactionId, receipt.entitiesWritten, receipt.messagesWritten⟩
  after : y = ((u.stamp a).settle versions, cell.set s w)

/-- Where there is nothing to write, the entities are settled already. -/
theorem passed_of_empty (cell : Cell W Store) {a : Attempt} {u : UnitOfWork κ} (w : W)
    {changes : ChangeSet} (gathered : gather a (u.stamp a).tracked = .ok changes)
    (empty : changes.isEmpty = true) : ∃ versions, Passed cell a u w ⟨a.transactionId, 0, 0⟩
      (u.stamp a, w) changes versions ⟨0, 0⟩ (cell.get w) := by
  have hsettled := settled_of_empty gathered empty
  refine ⟨_, gathered, versions?_of_settled hsettled, ?_, rfl, ?_⟩
  · rw [ChangeSet.isEmpty, Bool.and_eq_true, List.isEmpty_iff, List.isEmpty_iff] at empty
    obtain ⟨transactionId, entities, messages⟩ := changes
    obtain ⟨rfl, rfl⟩ := empty
    exact ⟨by simp [Store.Fits], rfl, rfl, by simp [Store.novel]⟩
  · rw [settle_of_settled hsettled, cell.set_get]

/-- A commit that reports success went through all of this. -/
theorem passed_of_commit {cell : Cell W Store} {a : Attempt} {u : UnitOfWork κ} {w : W}
    {summary : CommitSummary}
    (h : ((commit (Store.committer cell) a).run (u, w)).1 = .ok (.ok summary)) :
    ∃ changes versions receipt s, Passed cell a u w summary
      ((commit (Store.committer cell) a).run (u, w)).2 changes versions receipt s := by
  refine Action.Ensures.answered (X := fun _ => True) (Q := fun answer y => ∀ summary,
    answer = .ok summary → ∃ changes versions receipt s,
      Passed cell a u w summary y changes versions receipt s) ?_ h summary rfl
  rw [commit]
  cases hcancelled : a.cancelled with
  | true => exact fun summary hanswer => by cases hanswer
  | false =>
    -- two exits report success: nothing was to be written, or the store wrote it
    rw [if_neg Bool.false_ne_true, Action.ensures_bind, Action.ensures_update, Action.ensures_bind,
      Action.ensures_ask]
    cases hgather : gather a (u.stamp a).tracked with
    | error e => exact fun summary hanswer => by cases hanswer
    | ok changes =>
      cases hempty : changes.isEmpty with
      | true =>
        simp only [hempty, if_true, Action.ensures_pure]
        rintro summary ⟨⟩
        obtain ⟨versions, hpassed⟩ := passed_of_empty cell w hgather hempty
        exact ⟨changes, versions, _, _, hpassed⟩
      | false =>
        simp only [hempty, Bool.false_eq_true, if_false, Action.ensures_bind]
        have hrun := nextVersions_run hgather (u.stamp a, w)
        cases hversions : versions? (u.stamp a).tracked with
        | none =>
          rw [hversions] at hrun
          rw [Action.Ensures, hrun]
          trivial
        | some versions =>
          rw [hversions] at hrun
          refine Action.ensures_of_run_ok hrun ?_
          refine (Action.ensures_true _ _).with_run.mono (fun answer y h => ?_) fun _ h => h
          -- the store is reached, and the last answer that counts is its own
          obtain ⟨hstore, -⟩ := h
          rw [Action.run_focus] at hstore
          rcases answer with e | receipt
          · exact fun summary hanswer => by cases hanswer
          · rw [Action.ensures_bind, Action.ensures_update, Action.ensures_pure]
            rintro summary ⟨⟩
            rcases hcommit : (Store.commit changes).run (cell.get w) with ⟨result, s⟩
            have hfocus : ((Store.committer cell).commit changes).run w =
                (result, cell.set s w) := by
              rw [Store.committer, Action.run_focus, hcommit]
            simp only [worldCell, hfocus] at hstore
            cases hstore
            exact ⟨changes, versions, receipt, s, hgather, hversions,
              Store.written_of_commit hcommit, rfl, rfl⟩

/-! ## §5 What is settled -/

/-- What a commit makes of a tracked entity, where the rows and all the tracked entities afterwards
are given.  The entity is drained and unchanged.  Its version is that of its row, if its row is
written, and the row holds the stored form of an entity of that key. -/
structure SettledAs (rows : Table EntityKey EntityRow) (after : List (Tracked κ))
    (t t' : Tracked κ) : Prop where
  key : t'.key = t.key
  added : t.state = .added → t'.entity.version = 1
  modified : t.state = .modified → t'.entity.version.toNat = t.entity.version.toNat + 1
  unchanged : t.state = .unchanged → t'.entity.version = t.entity.version
  stored : t.state ≠ .unchanged → ∃ row, rows.find? t.key = some row ∧ row.key = t.key ∧
    row.version = t'.entity.version ∧ ∃ o ∈ after, o.key = t.key ∧ o.entity.state = .ok row.state
  drained : t'.entity.buffer.isEmpty = true
  settled : t'.state = .unchanged

section

variable {cell : Cell W Store} {a : Attempt} {u : UnitOfWork κ} {w : W} {summary : CommitSummary}
  {y : UnitOfWork κ × W} {changes : ChangeSet} {versions : List (Option UInt64)}
  {receipt : Receipt} {s : Store}

/-- The entities before the commit, once stamped, and those after it. -/
theorem Passed.tracked (h : Passed cell a u w summary y changes versions receipt s) :
    List.Forall₂ (fun t t' => ∃ v, t.IsVersioned v ∧ t' = t.settle v) (u.stamp a).tracked
      y.1.tracked := by
  rw [h.after]
  exact forall₂_zipWith (forall₂_versions? h.versioned) fun t v hv => ⟨v, hv, rfl⟩

/-- The row of an entity whose row is written. -/
theorem Passed.row (h : Passed cell a u w summary y changes versions receipt s) {t : Tracked κ}
    (ht : t ∈ (u.stamp a).tracked) (hwrites : t.writes = true) {version : Option UInt64}
    (hversion : t.IsVersioned version) :
    ∃ row, s.entities.find? t.key = some row ∧ row.key = t.key ∧ version = some row.version ∧
      ∃ o ∈ y.1.tracked, o.key = t.key ∧ o.entity.state = .ok row.state := by
  have hgathered := gather_entities h.gathered
  -- the entity has its change in the set, and its version is the one that follows from it
  obtain ⟨c, hc, hchanged⟩ := exists_right_of_forall₂ hgathered (List.mem_filter.mpr ⟨ht, hwrites⟩)
  rw [IsVersioned, hchanged.kind] at hversion
  obtain ⟨v, hv, rfl⟩ := hversion
  rcases Store.find?_of_write? h.written.rows t.key with ⟨hnone, -⟩ | ⟨c', hc', v', hkey, hv', hrow⟩
  · exact absurd hchanged.key (hnone c hc)
  · -- another entity of the same key may have the last word, with the same version
    have hsame : v' = v := Store.nextVersion_eq_of_fits h.written.fits hc hc'
      (hkey.trans hchanged.key.symm) hv hv'
    obtain ⟨o, ho, hchanged'⟩ := exists_left_of_forall₂ hgathered hc'
    obtain ⟨_, ho', _, -, rfl⟩ := exists_right_of_forall₂ h.tracked (List.mem_of_mem_filter ho)
    exact ⟨Store.rowOf c' v', hrow, hkey, by rw [← hsame]; rfl, _, ho',
      hchanged'.key.symm.trans hkey, hchanged'.state⟩

/-- Every tracked entity is settled as its state asks for. -/
theorem Passed.settledAs (h : Passed cell a u w summary y changes versions receipt s) :
    List.Forall₂ (SettledAs s.entities y.1.tracked) u.tracked y.1.tracked := by
  have htracked := h.tracked
  rw [stamp, List.forall₂_map_left_iff] at htracked
  refine forall₂_imp_of_mem htracked fun t ht t' ⟨v, hversion, ht'⟩ => ?_
  subst ht'
  have hstamped : t.stamp a.now (Actor.auditName a.actor) ∈ (u.stamp a).tracked :=
    List.mem_map_of_mem ht
  constructor
  case key => rfl
  -- the version is found from the kind of change that the state stands for
  case added =>
    intro hstate
    obtain ⟨n, hn, rfl⟩ : ∃ n, ChangeKind.insert.nextVersion? = some n ∧ v = some n := by
      simpa only [IsVersioned, changeKind?, Tracked.stamp, hstate] using hversion
    cases hn
    rfl
  case modified =>
    intro hstate
    obtain ⟨n, hn, rfl⟩ : ∃ n, (ChangeKind.update t.entity.version).nextVersion? = some n ∧
        v = some n := by
      simpa only [IsVersioned, changeKind?, Tracked.stamp, hstate] using hversion
    exact Store.toNat_nextVersion hn
  case unchanged =>
    intro hstate
    obtain rfl : v = none := by
      simpa only [IsVersioned, changeKind?, Tracked.stamp, hstate] using hversion
    rfl
  case stored =>
    intro hstate
    obtain ⟨row, hrow, hkey, rfl, hstored⟩ := h.row hstamped (decide_eq_true hstate) hversion
    exact ⟨row, hrow, hkey, rfl, hstored⟩
  case drained => rfl
  case settled => rfl

/-- A key that no entity writes to keeps its row. -/
theorem Passed.others (h : Passed cell a u w summary y changes versions receipt s)
    {k : EntityKey} (hk : ∀ t ∈ u.tracked, t.state ≠ .unchanged → t.key ≠ k) :
    s.entities.find? k = (cell.get w).entities.find? k := by
  rcases Store.find?_of_write? h.written.rows k with ⟨-, hsame⟩ | ⟨c, hc, -, hkey, -, -⟩
  · exact hsame
  · -- a change of that key would come from an entity that writes to it
    obtain ⟨t, ht, hchanged⟩ := exists_left_of_forall₂ (gather_entities h.gathered) hc
    obtain ⟨hmem, hwrites⟩ := List.mem_filter.mp ht
    obtain ⟨t₀, ht₀, rfl⟩ := List.mem_map.mp hmem
    exact absurd (hchanged.key.symm.trans hkey) (hk t₀ ht₀ (of_decide_eq_true hwrites))

end

/-- The row of a raised event. -/
structure IsRowOf (transactionId : Uuid) (createdAt : Instant) (raised : Tracked κ × Event κ)
    (m : Message) : Prop where
  row : Message.ofEvent raised.2 raised.1.entity.entityType raised.1.entity.entityId transactionId
    createdAt = .ok m
  untouched : m.Untouched
  transactionId : m.transactionId = transactionId
  createdAt : m.createdAt = createdAt

/-- The row made for an event is its row, untouched, of this transaction and time. -/
theorem isRowOf_of_message {t : Tracked κ} {a : Attempt} {e : Event κ} {m : Message}
    (h : t.message a e = .ok m) : IsRowOf a.transactionId a.now (t, e) m := by
  obtain ⟨payload, hpayload, rfl⟩ := exists_payload_of_message h
  refine ⟨?_, ⟨rfl, rfl, rfl⟩, rfl, rfl⟩
  rw [Message.ofEvent, hpayload]
  rfl

/-- The messages of stamped entities are the rows of the events that were raised. -/
theorem isRowOf_of_gather {a : Attempt} {u : UnitOfWork κ} {cs : ChangeSet}
    (h : gather a (u.stamp a).tracked = .ok cs) :
    List.Forall₂ (IsRowOf a.transactionId a.now) (raisedBy u.tracked) cs.messages := by
  -- a stamp changes neither the events nor their order
  have hraised : raisedBy (u.stamp a).tracked = (raisedBy u.tracked).map
      fun te => (te.1.stamp a.now (Actor.auditName a.actor), te.2) := by
    simp only [raisedBy, stamp, List.flatMap_map, List.map_flatMap, List.map_map]
    rfl
  have hmessages := gather_messages h
  rw [hraised, List.forall₂_map_left_iff] at hmessages
  refine hmessages.imp fun te m hm => ?_
  -- a stamp does not show in the rows of events
  have hunstamped : te.1.message a te.2 = .ok m := hm
  exact isRowOf_of_message hunstamped

/-- What a successful commit leaves, of the entities and in the store. -/
structure Settlement (cell : Cell W Store) (a : Attempt) (u : UnitOfWork κ) (w : W)
    (summary : CommitSummary) (y : UnitOfWork κ × W) : Prop where
  entities : List.Forall₂ (SettledAs (cell.get y.2).entities y.1.tracked) u.tracked y.1.tracked
  others : ∀ k, (∀ t ∈ u.tracked, t.state ≠ .unchanged → t.key ≠ k) →
    (cell.get y.2).entities.find? k = (cell.get w).entities.find? k
  /-- The rows of the events in tracking order and then in the order of raising, without those whose
  identifiers are known, come behind the rows that were there. -/
  messages : ∃ rows, List.Forall₂ (IsRowOf summary.transactionId a.now) (raisedBy u.tracked) rows ∧
    (cell.get y.2).outbox = (cell.get w).outbox ++
      Store.numbered (cell.get w).nextSeq (Store.novel (cell.get w).ids rows) ∧
    summary.messagesWritten = (Store.novel (cell.get w).ids rows).length
  transactionId : summary.transactionId = a.transactionId
  entitiesWritten : summary.entitiesWritten = u.tracked.countP fun t => t.state ≠ .unchanged
  /-- Another commit that is not cancelled writes nothing, whatever the store is by then. -/
  again : ∀ b : Attempt, b.cancelled = false → ∀ v, (commit (Store.committer cell) b).run (y.1, v) =
    (.ok (.ok ⟨b.transactionId, 0, 0⟩), (y.1, v))

/-- A successful commit settles everything: the entities, their rows, the rows of their events, and
what a further commit would do. -/
theorem commit_settles {cell : Cell W Store} {a : Attempt} {u : UnitOfWork κ} {w : W}
    {summary : CommitSummary}
    (h : ((commit (Store.committer cell) a).run (u, w)).1 = .ok (.ok summary)) :
    Settlement cell a u w summary ((commit (Store.committer cell) a).run (u, w)).2 := by
  obtain ⟨changes, versions, receipt, s, hpassed⟩ := passed_of_commit h
  generalize ((commit (Store.committer cell) a).run (u, w)).2 = y at hpassed ⊢
  have hstore : cell.get y.2 = s := by rw [hpassed.after, cell.get_set]
  have hreceipt := hpassed.written.receipt
  have hsummary := hpassed.summary
  constructor
  case entities =>
    rw [hstore]
    exact hpassed.settledAs
  case others =>
    rw [hstore]
    exact fun k hk => hpassed.others hk
  case messages =>
    rw [hstore, hsummary, hreceipt]
    exact ⟨changes.messages, isRowOf_of_gather hpassed.gathered, hpassed.written.outbox, rfl⟩
  case transactionId => rw [hsummary]
  case entitiesWritten =>
    -- the changes are as many as the entities that are written
    have hlength := (gather_entities hpassed.gathered).length_eq
    rw [hsummary, hreceipt, ← hlength, ← List.countP_eq_length_filter, stamp, List.countP_map]
    rfl
  case again =>
    -- nothing is asked of the store: every entity is settled
    intro b uncancelled v
    refine commit_of_settled _ uncancelled (fun t' ht' => ?_) v
    obtain ⟨t, -, version, -, rfl⟩ := exists_left_of_forall₂ hpassed.tracked ht'
    exact isSettled_settle version t

/-- A store that holds two items and the row of an event. -/
private def cupboard : Store where
  entities := ⟨[(("Item", "7"), ⟨"Item", "7", 3, .null⟩), (("Item", "9"), ⟨"Item", "9", 5, .null⟩)]⟩
  outbox :=
    let row := Message.ofEvent (Shop.created 1) "Item" "7" (Uuid.ofNat 8) Shop.opening
    row.toOption.toList.map fun m => (0, m)
  nextSeq := 1

/-- An unchanged item, a new one, and a change, each with events; one event is stored already, and
one is raised twice. -/
private def mixture : UnitOfWork Shop.Kind :=
  ⟨[⟨Shop.item "9" 5 [Shop.created 2], .unchanged⟩, ⟨Shop.item "8" 0 [Shop.created 3], .added⟩,
    ⟨Shop.item "7" 3 [Shop.created 1, Shop.created 2, Shop.created 4], .modified⟩]⟩

private def stocktaking : Attempt where
  actor := some ⟨"manager", true⟩
  transactionId := Uuid.ofNat 9
  cancelled := false
  now := Shop.opening

/-- A new item, a changed one and an unchanged one take the versions they should, and of their
events those that are new get rows. -/
theorem every_tracking_state_settles :
    let after := ((commit (Store.committer .whole) stocktaking).run (mixture, cupboard)).2
    after.1.tracked.map (fun t => t.entity.version) = [5, 1, 4] ∧
    after.2.ids = [1, 2, 3, 4].map Uuid.ofNat ∧
    Settlement .whole stocktaking mixture cupboard ⟨Uuid.ofNat 9, 2, 3⟩ after := by
  have hrun : ((commit (Store.committer .whole) stocktaking).run (mixture, cupboard)).1 =
      .ok (.ok ⟨Uuid.ofNat 9, 2, 3⟩) := by decide +kernel
  exact ⟨by decide +kernel, by decide +kernel, commit_settles hrun⟩

end UnitOfWork

end EventOutbox
