import EventOutbox.Proofs.Aligned
import EventOutbox.Proofs.Store.Commit
import EventOutbox.UnitOfWork.Basic

/-!
# How commits of units of work end

What gathering and settling do to tracked entities, and one relation that lists all ways in which
the commit of a unit of work against a store ends, with the entities and the store afterwards.
-/

namespace EventOutbox

variable {κ W : Type} [EventCatalog κ]

/-! ## §1 Changes and messages -/

namespace Tracked

/-- The key of the entity's row. -/
def key (t : Tracked κ) : EntityKey :=
  (t.entity.entityType, t.entity.entityId)

/-- The change is that of the entity: it is of the right kind, and carries the key and the stored
form of the entity. -/
structure IsChanged (t : Tracked κ) (c : Change) : Prop where
  kind : t.changeKind? = some c.kind
  key : c.key = t.key
  state : t.entity.state = .ok c.state

/-- An entity has no change to make, or just its own. -/
theorem changes_cases {t : Tracked κ} {cs : List Change} (h : t.changes = .ok cs) :
    (t.changeKind? = none ∧ cs = []) ∨ ∃ c, t.IsChanged c ∧ cs = [c] := by
  rw [changes] at h
  cases hkind : t.changeKind? with
  | none =>
    rw [hkind] at h
    exact .inl ⟨rfl, (Except.ok.inj h).symm⟩
  | some kind =>
    simp only [hkind] at h
    cases hstate : t.entity.state with
    | error e =>
      rw [hstate] at h
      cases h
    | ok state =>
      rw [hstate] at h
      exact .inr ⟨_, ⟨hkind, rfl, hstate⟩, (Except.ok.inj h).symm⟩

/-- An event of a tracked entity that gets a row has a stored form, and the row is made of it. -/
theorem exists_payload_of_message {t : Tracked κ} {a : Attempt} {e : Event κ} {m : Message}
    (h : t.message a e = .ok m) : ∃ payload, e.payload = .ok payload ∧ m =
      { id := e.id, eventType := e.eventType, payload, aggregateType := t.entity.entityType
        aggregateId := t.entity.entityId, transactionId := a.transactionId, createdAt := a.now
        processedAt := none, retryCount := 0, lastError := none } := by
  rw [message, Message.ofEvent] at h
  cases hpayload : e.payload with
  | error reason =>
    rw [hpayload] at h
    cases h
  | ok payload =>
    rw [hpayload] at h
    cases h
    exact ⟨payload, rfl, rfl⟩

end Tracked

namespace UnitOfWork

open Tracked

/-! ## §2 Gathering -/

/-- The raised events of tracked entities in tracking order, each with its entity. -/
def raisedBy (ts : List (Tracked κ)) : List (Tracked κ × Event κ) :=
  ts.flatMap fun t => t.entity.buffer.pending.map fun e => (t, e)

/-- The versions that tracked entities take; `none` when the versions of one are used up. -/
def versions? : List (Tracked κ) → Option (List (Option UInt64))
  | [] => some []
  | t :: ts =>
    match t.changeKind? with
    | none => (versions? ts).map (none :: ·)
    | some kind => kind.nextVersion?.bind fun v => (versions? ts).map (some v :: ·)

/-- Every tracked entity has its entry among the versions. -/
theorem length_versions? {ts : List (Tracked κ)} {vs : List (Option UInt64)}
    (h : versions? ts = some vs) : vs.length = ts.length := by
  induction ts generalizing vs with
  | nil => simp_all [versions?]
  | cons t ts ih =>
    rw [versions?] at h
    cases hkind : t.changeKind? with
    | none =>
      simp only [hkind, Option.map_eq_some_iff] at h
      obtain ⟨rest, hrest, rfl⟩ := h
      rw [List.length_cons, List.length_cons, ih hrest]
    | some kind =>
      simp only [hkind, Option.bind_eq_some_iff, Option.map_eq_some_iff] at h
      obtain ⟨v, -, rest, hrest, rfl⟩ := h
      rw [List.length_cons, List.length_cons, ih hrest]

/-- The parts of a change set that was gathered from a list that is not empty. -/
theorem gather_cons {a : Attempt} {t : Tracked κ} {ts : List (Tracked κ)} {cs : ChangeSet}
    (h : gather a (t :: ts) = .ok cs) :
    ∃ entities messages rest, t.changes = .ok entities ∧
      t.entity.buffer.pending.mapM (t.message a) = .ok messages ∧ gather a ts = .ok rest ∧
      cs = { rest with
        entities := entities ++ rest.entities, messages := messages ++ rest.messages } := by
  rw [gather] at h
  cases hentities : t.changes with
  | error e => simp [hentities, bind, Except.bind] at h
  | ok entities =>
    cases hmessages : t.entity.buffer.pending.mapM (t.message a) with
    | error e => simp [hentities, hmessages, bind, Except.bind] at h
    | ok messages =>
      cases hrest : gather a ts with
      | error e => simp [hentities, hmessages, hrest, bind, Except.bind] at h
      | ok rest =>
        simp only [hentities, hmessages, hrest, bind, Except.bind, Except.ok.injEq] at h
        exact ⟨entities, messages, rest, rfl, rfl, rfl, h.symm⟩

/-- An unchanged entity takes no version, and no change from the list. -/
theorem nextVersions_of_unchanged {t : Tracked κ} (h : t.changeKind? = none)
    (ts : List (Tracked κ)) (changes : List Change) :
    (nextVersions (t :: ts) changes : Action W _) =
      nextVersions ts changes >>= fun versions => pure (none :: versions) := by
  obtain ⟨entity, _ | _ | _⟩ := t
  · cases h
  · cases h
  · rfl

/-- A changed entity takes the version that follows from the first change of the list. -/
theorem nextVersions_of_change {t : Tracked κ} {kind : ChangeKind} (h : t.changeKind? = some kind)
    (ts : List (Tracked κ)) (c : Change) (changes : List Change) :
    (nextVersions (t :: ts) (c :: changes) : Action W _) =
      c.nextVersion >>= fun version =>
        nextVersions ts changes >>= fun versions => pure (some version :: versions) := by
  obtain ⟨entity, _ | _ | _⟩ := t
  · rfl
  · rfl
  · cases h

/-- The walk over the gathered changes stays in step with the entities: each entity that has a
change to make meets its own, and takes the version that follows from it. -/
theorem nextVersions_run {a : Attempt} {ts : List (Tracked κ)} {cs : ChangeSet}
    (h : gather a ts = .ok cs) (w : W) :
    (nextVersions ts cs.entities).run w = match versions? ts with
      | some vs => (.ok vs, w)
      | none => (.error .versionFull, w) := by
  -- the induction is over the entities, and the changes run out as they do
  induction ts generalizing cs with
  | nil => rfl
  | cons t ts ih =>
    obtain ⟨entities, messages, rest, hentities, -, hrest, rfl⟩ := gather_cons h
    rw [versions?]
    rcases changes_cases hentities with ⟨hkind, rfl⟩ | ⟨c, hchanged, rfl⟩
    · -- the entity takes no change from the list, so the walk goes on where it is
      rw [hkind, List.nil_append, nextVersions_of_unchanged hkind, Action.run_bind, ih hrest]
      cases versions? ts <;> rfl
    · -- the first change of the list is the entity's own
      rw [hchanged.kind, List.singleton_append, nextVersions_of_change hchanged.kind,
        Change.nextVersion]
      cases hv : c.kind.nextVersion? with
      | none =>
        simp only [hv, Option.bind_none]
        rw [Action.run_bind_of_error (Action.run_abort _ w)]
      | some v =>
        simp only [hv, Option.bind_some]
        rw [Action.run_bind_of_ok (Action.run_pure _ w), Action.run_bind, ih hrest]
        cases versions? ts <;> rfl

/-- The messages of a change set are the rows of the raised events, in order. -/
theorem gather_messages {a : Attempt} {ts : List (Tracked κ)} {cs : ChangeSet}
    (h : gather a ts = .ok cs) :
    List.Forall₂ (fun te m => te.1.message a te.2 = .ok m) (raisedBy ts) cs.messages := by
  induction ts generalizing cs with
  | nil =>
    cases h
    exact .nil
  | cons t ts ih =>
    obtain ⟨entities, messages, rest, -, hmessages, hrest, rfl⟩ := gather_cons h
    simp only [raisedBy, List.flatMap_cons]
    refine List.rel_append ?_ (ih hrest)
    rw [List.forall₂_map_left_iff]
    exact forall₂_of_mapM_ok hmessages

/-- Each change comes from a tracked entity that has a change to make. -/
theorem exists_tracked_of_gather {a : Attempt} {ts : List (Tracked κ)} {cs : ChangeSet}
    (h : gather a ts = .ok cs) {c : Change} (hc : c ∈ cs.entities) :
    ∃ t ∈ ts, t.changeKind? = some c.kind := by
  induction ts generalizing cs with
  | nil =>
    cases h
    simp at hc
  | cons t ts ih =>
    obtain ⟨entities, messages, rest, hentities, -, hrest, rfl⟩ := gather_cons h
    rcases List.mem_append.mp hc with hc | hc
    · -- the change is the entity's own
      rcases changes_cases hentities with ⟨-, rfl⟩ | ⟨own, hchanged, rfl⟩
      · cases hc
      · obtain rfl := List.mem_singleton.mp hc
        exact ⟨t, List.mem_cons_self, hchanged.kind⟩
    · obtain ⟨t', ht', hkind⟩ := ih hrest hc
      exact ⟨t', List.mem_cons_of_mem _ ht', hkind⟩

/-- Where all next versions exist, that of each change does. -/
theorem exists_version_of_mem {ts : List (Tracked κ)} {vs : List (Option UInt64)}
    (h : versions? ts = some vs) {t : Tracked κ} (ht : t ∈ ts) {kind : ChangeKind}
    (hkind : t.changeKind? = some kind) : ∃ v, kind.nextVersion? = some v := by
  induction ts generalizing vs with
  | nil => simp at ht
  | cons t' ts ih =>
    rw [versions?] at h
    rcases List.mem_cons.mp ht with rfl | ht
    · simp only [hkind, Option.bind_eq_some_iff] at h
      obtain ⟨v, hv, -⟩ := h
      exact ⟨v, hv⟩
    · split at h
      · obtain ⟨rest, hrest, -⟩ := Option.map_eq_some_iff.mp h
        exact ih hrest ht
      · obtain ⟨v, -, hmap⟩ := Option.bind_eq_some_iff.mp h
        obtain ⟨rest, hrest, -⟩ := Option.map_eq_some_iff.mp hmap
        exact ih hrest ht

/-- When the entities have next versions, so have the changes gathered from them. -/
theorem versioned_of_gather {a : Attempt} {ts : List (Tracked κ)} {cs : ChangeSet}
    {vs : List (Option UInt64)} (h : gather a ts = .ok cs) (hvs : versions? ts = some vs) :
    cs.Versioned := by
  intro c hc
  obtain ⟨t, ht, hkind⟩ := exists_tracked_of_gather h hc
  exact exists_version_of_mem hvs ht hkind

/-! ## §3 Outcomes -/

/-- How a commit against a store ends, and the entities and the world afterwards. -/
inductive Outcome (cell : Cell W Store) (a : Attempt) (u : UnitOfWork κ) (w : W) :
    Except Abort (Except CommitError CommitSummary) → UnitOfWork κ × W → Prop where
  | cancelled (cancelled : a.cancelled = true) :
      Outcome cell a u w (.ok (.error .cancelled)) (u, w)
  /-- An entity or an event has no stored form. -/
  | ungathered (e : CommitError) (uncancelled : a.cancelled = false)
      (gathered : gather a (u.stamp a).tracked = .error e) :
      Outcome cell a u w (.ok (.error e)) (u.stamp a, w)
  /-- There is nothing to write. -/
  | nothing (changes : ChangeSet) (uncancelled : a.cancelled = false)
      (gathered : gather a (u.stamp a).tracked = .ok changes) (empty : changes.isEmpty = true) :
      Outcome cell a u w (.ok (.ok ⟨a.transactionId, 0, 0⟩)) (u.stamp a, w)
  /-- The versions of an entity are used up. -/
  | full (changes : ChangeSet) (uncancelled : a.cancelled = false)
      (gathered : gather a (u.stamp a).tracked = .ok changes) (some : changes.isEmpty = false)
      (versions : versions? (u.stamp a).tracked = none) :
      Outcome cell a u w (.error .versionFull) (u.stamp a, w)
  /-- The store does not accept the changes. -/
  | refused (changes : ChangeSet) (e : StoreError) (s : Store) (uncancelled : a.cancelled = false)
      (gathered : gather a (u.stamp a).tracked = .ok changes)
      (store : Store.CommitOutcome (cell.get w) changes (.ok (.error e)) s) :
      Outcome cell a u w (.ok (.error (.ofStore e))) (u.stamp a, cell.set s w)
  | settled (changes : ChangeSet) (receipt : Receipt) (versions : List (Option UInt64)) (s : Store)
      (uncancelled : a.cancelled = false)
      (gathered : gather a (u.stamp a).tracked = .ok changes)
      (versioned : versions? (u.stamp a).tracked = .some versions)
      (store : Store.CommitOutcome (cell.get w) changes (.ok (.ok receipt)) s) :
      Outcome cell a u w
        (.ok (.ok ⟨a.transactionId, receipt.entitiesWritten, receipt.messagesWritten⟩))
        ((u.stamp a).settle versions, cell.set s w)

theorem commit_outcome (cell : Cell W Store) (a : Attempt) (u : UnitOfWork κ) (w : W) :
    Outcome cell a u w ((commit (Store.committer cell) a).run (u, w)).1
      ((commit (Store.committer cell) a).run (u, w)).2 := by
  rw [commit]
  cases hcancelled : a.cancelled with
  | true => exact .cancelled hcancelled
  | false =>
    simp only [Bool.false_eq_true, if_false]
    -- each test of the commit in turn ends it, or the next one is made
    rw [Action.run_bind_of_ok (Action.run_update _ _), Action.run_bind_of_ok (Action.run_ask _ _)]
    cases hgather : gather a (u.stamp a).tracked with
    | error e => exact .ungathered e hcancelled hgather
    | ok changes =>
      cases hempty : changes.isEmpty with
      | true =>
        simp only [hempty, if_true]
        exact .nothing changes hcancelled hgather hempty
      | false =>
        simp only [hempty, Bool.false_eq_true, if_false]
        have hrun := nextVersions_run hgather (u.stamp a, w)
        cases hversions : versions? (u.stamp a).tracked with
        | none =>
          rw [hversions] at hrun
          rw [Action.run_bind_of_error hrun]
          exact .full changes hcancelled hgather hempty hversions
        | some versions =>
          rw [hversions] at hrun
          rw [Action.run_bind_of_ok hrun]
          -- the versions were found before the store is asked, so that it cannot end the run
          have hstore := Store.commit_outcome (versioned_of_gather hgather hversions) (cell.get w)
          rcases hcommit : (Store.commit changes).run (cell.get w) with ⟨answer, s⟩
          rw [hcommit] at hstore
          have hfocus : (worldCell.focus ((Store.committer cell).commit changes)).run
              (u.stamp a, w) = (answer, (u.stamp a, cell.set s w)) := by
            simp only [Action.run_focus, worldCell, Store.committer, hcommit]
          rcases answer with abort | e | receipt
          · cases hstore
          · rw [Action.run_bind_of_ok hfocus]
            exact .refused changes e s hcancelled hgather hstore
          · rw [Action.run_bind_of_ok hfocus]
            exact .settled changes receipt versions s hcancelled hgather hversions hstore

end UnitOfWork

end EventOutbox
