import EventOutbox.Proofs.UnitOfWork.Outcome
import EventOutbox.Shop

/-!
# Failed commits and their repetition

A commit that is not accepted leaves the tables of the store as they are, and of the tracked
entities it can touch the audit fields only.  These stamps do not last either: the next attempt that
is not cancelled overwrites all that it writes and never reads the others.  So failed attempts make
no difference to the attempt that follows them.

## Main statement

- `UnitOfWork.failed_commits_leave_no_trace`
-/

namespace EventOutbox

variable {κ W : Type} [EventCatalog κ]

/-! ## §1 Stamps -/

namespace Tracked

/-- A tracked entity without its audit fields. -/
def withoutAudit (t : Tracked κ) : Tracked κ :=
  { t with entity := { t.entity with audit := none } }

theorem withoutAudit_stamp (now : Instant) (actor : String) (t : Tracked κ) :
    (t.stamp now actor).withoutAudit = t.withoutAudit := rfl

/-- A stamp leaves nothing of an earlier stamp of the same entity. -/
theorem stamp_stamp (now now' : Instant) (actor actor' : String) (t : Tracked κ) :
    (t.stamp now actor).stamp now' actor' = t.stamp now' actor' := by
  obtain ⟨entity, state⟩ := t
  simp only [stamp, Option.map_map]
  -- what is written depends on the tracking state, which stamps do not change
  cases state <;> rfl

end Tracked

namespace UnitOfWork

/-- Of two attempts, only the later one leaves its stamps on a unit of work. -/
theorem stamp_stamp (a b : Attempt) (u : UnitOfWork κ) : (u.stamp a).stamp b = u.stamp b := by
  simp only [stamp, List.map_map, UnitOfWork.mk.injEq]
  refine List.map_congr_left fun t _ => ?_
  exact Tracked.stamp_stamp _ _ _ _ t

/-- Stamps change nothing but the audit fields. -/
theorem map_withoutAudit_stamp (a : Attempt) (u : UnitOfWork κ) :
    (u.stamp a).tracked.map Tracked.withoutAudit = u.tracked.map Tracked.withoutAudit := by
  simp only [stamp, List.map_map]
  exact List.map_congr_left fun t _ => Tracked.withoutAudit_stamp _ _ t

/-! ## §2 Single attempts -/

/-- The unit of work and the world afterwards differ from those before at most in audit fields and
in the faults that are armed. -/
structure Untouched (cell : Cell W Store) (x y : UnitOfWork κ × W) : Prop where
  entities : y.1.tracked.map Tracked.withoutAudit = x.1.tracked.map Tracked.withoutAudit
  tables : (cell.get x.2).SameTables (cell.get y.2)
  elsewhere : y.2 = cell.set (cell.get y.2) x.2

/-- The commit does not answer that it succeeded. -/
def Fails (cell : Cell W Store) (a : Attempt) (x : UnitOfWork κ × W) : Prop :=
  ∀ summary, ((commit (Store.committer cell) a).run x).1 ≠ .ok (.ok summary)

/-- Nothing at all has changed. -/
theorem Untouched.refl (cell : Cell W Store) (x : UnitOfWork κ × W) : Untouched cell x x where
  entities := rfl
  tables := Store.SameTables.refl _
  elsewhere := (cell.set_get x.2).symm

/-- Changes of these kinds add up to such changes. -/
theorem Untouched.trans {cell : Cell W Store} {x y z : UnitOfWork κ × W}
    (h : Untouched cell x y) (h' : Untouched cell y z) : Untouched cell x z where
  entities := h'.entities.trans h.entities
  tables := h.tables.trans h'.tables
  elsewhere := by
    have hz := h'.elsewhere
    rw [h.elsewhere, cell.set_set] at hz
    exact hz

/-- Stamping changes no more than that. -/
theorem untouched_stamp (cell : Cell W Store) (a : Attempt) (u : UnitOfWork κ) (w : W) :
    Untouched cell (u, w) (u.stamp a, w) where
  entities := map_withoutAudit_stamp a u
  tables := Store.SameTables.refl _
  elsewhere := (cell.set_get w).symm

/-- Neither does a store that uses up a fault. -/
theorem untouched_set {cell : Cell W Store} {u : UnitOfWork κ} {w : W} {s : Store}
    (hs : (cell.get w).SameTables s) : Untouched cell (u, w) (u, cell.set s w) where
  entities := rfl
  tables := by
    rw [cell.get_set]
    exact hs
  elsewhere := by rw [cell.get_set]

/-- A commit that fails leaves everything untouched, in whatever way it ends. -/
theorem Outcome.untouched {cell : Cell W Store} {a : Attempt} {u : UnitOfWork κ} {w : W}
    {answer : Except Abort (Except CommitError CommitSummary)} {y : UnitOfWork κ × W}
    (h : Outcome cell a u w answer y) (hanswer : ∀ summary, answer ≠ .ok (.ok summary)) :
    Untouched cell (u, w) y := by
  cases h with
  | cancelled => exact Untouched.refl cell _
  | ungathered => exact untouched_stamp cell a u w
  | nothing => exact absurd rfl (hanswer _)
  | full => exact untouched_stamp cell a u w
  | refused changes e s _ _ hstore =>
    -- the stamps stay, and the store may have used up a fault
    have hs : (cell.get w).SameTables s := hstore.sameTables fun receipt h => by cases h
    exact (untouched_stamp cell a u w).trans (untouched_set hs)
  | settled => exact absurd rfl (hanswer _)

/-- A change that cannot be made is one without a stored form. -/
theorem serialization_of_changes {t : Tracked κ} {e : CommitError} (h : t.changes = .error e) :
    ∃ reason, e = .serialization reason := by
  rw [Tracked.changes] at h
  split at h
  · cases h
  · split at h <;> cases h
    exact ⟨_, rfl⟩

/-- A row that cannot be made is one without a stored form. -/
theorem serialization_of_message {t : Tracked κ} {a : Attempt} {event : Event κ} {e : CommitError}
    (h : t.message a event = .error e) : ∃ reason, e = .serialization reason := by
  rw [Tracked.message] at h
  cases hrow : Message.ofEvent event t.entity.entityType t.entity.entityId a.transactionId
      a.now with
  | error reason =>
    rw [hrow] at h
    cases h
    exact ⟨_, rfl⟩
  | ok m =>
    rw [hrow] at h
    cases h

/-- What cannot be gathered has no stored form. -/
theorem serialization_of_gather {a : Attempt} {ts : List (Tracked κ)} {e : CommitError}
    (h : gather a ts = .error e) : ∃ reason, e = .serialization reason := by
  -- the first part that fails decides the answer
  induction ts with
  | nil => cases h
  | cons t ts ih =>
    rw [gather] at h
    cases hchanges : t.changes with
    | error e' =>
      simp only [hchanges, bind, Except.bind, Except.error.injEq] at h
      exact serialization_of_changes (h ▸ hchanges)
    | ok entities =>
      cases hmessages : t.entity.buffer.pending.mapM (t.message a) with
      | error e' =>
        simp only [hchanges, hmessages, bind, Except.bind, Except.error.injEq] at h
        obtain ⟨event, -, hevent⟩ := exists_of_mapM_error hmessages
        exact serialization_of_message (h ▸ hevent)
      | ok messages =>
        cases hrest : gather a ts with
        | error e' =>
          simp only [hchanges, hmessages, hrest, bind, Except.bind, Except.error.injEq] at h
          exact ih (h ▸ hrest)
        | ok rest => simp [hchanges, hmessages, hrest, bind, Except.bind] at h

/-- No store answers that the commit was cancelled. -/
theorem ofStore_ne_cancelled (e : StoreError) : CommitError.ofStore e ≠ .cancelled := by
  cases e <;> intro h <;> cases h

/-- Only a cancelled attempt answers that it was cancelled. -/
theorem Outcome.cancelled_iff {cell : Cell W Store} {a : Attempt} {u : UnitOfWork κ} {w : W}
    {answer : Except Abort (Except CommitError CommitSummary)} {y : UnitOfWork κ × W}
    (h : Outcome cell a u w answer y) : answer = .ok (.error .cancelled) ↔ a.cancelled = true := by
  cases h with
  | cancelled hcancelled => exact ⟨fun _ => hcancelled, fun _ => rfl⟩
  | ungathered e huncancelled hgather =>
    obtain ⟨reason, rfl⟩ := serialization_of_gather hgather
    simp [huncancelled]
  | nothing _ huncancelled => simp [huncancelled]
  | full _ huncancelled => simp [huncancelled]
  | refused _ e _ huncancelled => simp [huncancelled, ofStore_ne_cancelled e]
  | settled _ _ _ _ huncancelled => simp [huncancelled]

/-- A cancelled attempt does nothing at all. -/
theorem commit_of_cancelled {store : Committer W} {a : Attempt} (h : a.cancelled = true)
    (x : UnitOfWork κ × W) : (commit store a).run x = (.ok (.error .cancelled), x) := by
  rw [commit, h]
  rfl

/-- An attempt that is not cancelled sees of the entities only what its own stamps leave. -/
theorem commit_congr {store : Committer W} {a : Attempt} (h : a.cancelled = false)
    {u u' : UnitOfWork κ} (hu : u'.stamp a = u.stamp a) (w : W) :
    (commit store a).run (u', w) = (commit store a).run (u, w) := by
  rw [commit, h]
  simp only [Bool.false_eq_true, if_false]
  rw [Action.run_bind_of_ok (Action.run_update _ _), hu,
    Action.run_bind_of_ok (Action.run_update _ _)]

/-! ## §3 Repeated attempts -/

/-- What failed attempts can lead to, while faults are armed between them. -/
inductive FailedAttempts (cell : Cell W Store) (x : UnitOfWork κ × W) :
    UnitOfWork κ × W → Prop where
  | none : FailedAttempts cell x x
  | arm {y : UnitOfWork κ × W} (before : FailedAttempts cell x y) (faults : Faults) :
      FailedAttempts cell x (y.1, cell.set { cell.get y.2 with faults } y.2)
  | attempt {y : UnitOfWork κ × W} (before : FailedAttempts cell x y) (a : Attempt)
      (fails : Fails cell a y) :
      FailedAttempts cell x ((commit (Store.committer cell) a).run y).2

/-- A failed attempt leaves entities that the next one stamps just as it would have stamped them
before. -/
theorem Outcome.stamp_eq {cell : Cell W Store} {a : Attempt} {u : UnitOfWork κ} {w : W}
    {answer : Except Abort (Except CommitError CommitSummary)} {y : UnitOfWork κ × W}
    (h : Outcome cell a u w answer y) (hanswer : ∀ summary, answer ≠ .ok (.ok summary))
    (b : Attempt) : y.1.stamp b = u.stamp b := by
  cases h with
  | cancelled => rfl
  | ungathered => exact stamp_stamp a b u
  | nothing => exact absurd rfl (hanswer _)
  | full => exact stamp_stamp a b u
  | refused => exact stamp_stamp a b u
  | settled => exact absurd rfl (hanswer _)

/-- The same of an attempt that is known by its answer. -/
theorem Fails.untouched {cell : Cell W Store} {a : Attempt} {x : UnitOfWork κ × W}
    (h : Fails cell a x) : Untouched cell x ((commit (Store.committer cell) a).run x).2 :=
  (commit_outcome cell a x.1 x.2).untouched h

/-- However many attempts fail, everything stays untouched. -/
theorem FailedAttempts.untouched {cell : Cell W Store} {x y : UnitOfWork κ × W}
    (h : FailedAttempts cell x y) : Untouched cell x y := by
  induction h with
  | none => exact Untouched.refl cell x
  | arm _ faults ih => exact ih.trans (untouched_set ⟨rfl, rfl, rfl, rfl⟩)
  | attempt _ a fails ih => exact ih.trans fails.untouched

/-- The stamps of failed attempts do not show through the next one. -/
theorem FailedAttempts.stamp_eq {cell : Cell W Store} {x y : UnitOfWork κ × W}
    (h : FailedAttempts cell x y) (b : Attempt) : y.1.stamp b = x.1.stamp b := by
  induction h with
  | none => rfl
  | arm _ _ ih => exact ih
  | @attempt y _ a fails ih => exact ((commit_outcome cell a y.1 y.2).stamp_eq fails b).trans ih

/-- A commit that does not succeed leaves the tables of the store and everything around it as they
are, and of the entities all but the audit fields; a cancelled one leaves those, too.  After any
number of failed attempts, an attempt that is not cancelled runs as it would have run at once, with
the faults that are armed by then. -/
theorem failed_commits_leave_no_trace (cell : Cell W Store) (x : UnitOfWork κ × W) :
    (∀ a, Fails cell a x → Untouched cell x ((commit (Store.committer cell) a).run x).2) ∧
      (∀ a, ((commit (Store.committer cell) a).run x).1 = .ok (.error .cancelled) ↔
        a.cancelled = true) ∧
      (∀ a, a.cancelled = true → ((commit (Store.committer cell) a).run x).2 = x) ∧
      ∀ y, FailedAttempts cell x y → ∀ a, a.cancelled = false →
        (commit (Store.committer cell) a).run y =
          (commit (Store.committer cell) a).run
            (x.1, cell.set { cell.get x.2 with faults := (cell.get y.2).faults } x.2) := by
  refine ⟨fun a h => h.untouched, fun a => (commit_outcome cell a x.1 x.2).cancelled_iff,
    fun a h => by rw [commit_of_cancelled h], fun y h a ha => ?_⟩
  -- the world is that of the start up to its faults, and the entities are so up to their stamps
  have hy := h.untouched
  have hworld : y.2 = cell.set { cell.get x.2 with faults := (cell.get y.2).faults } x.2 := by
    rw [← hy.tables.eq_with_faults]
    exact hy.elsewhere
  calc (commit (Store.committer cell) a).run y
      = (commit (Store.committer cell) a).run (x.1, y.2) := commit_congr ha (h.stamp_eq a) y.2
    _ = _ := by rw [← hworld]

/-- A store that holds an item at version 3 and lets the next commit fail. -/
private def shelf : Store where
  entities := ⟨[(("Item", "7"), ⟨"Item", "7", 3, .null⟩)]⟩
  faults := { commit := some (.database "connection reset") }

/-- A change of the stored item and a second item, both with events. -/
private def delivery : UnitOfWork Shop.Kind :=
  ⟨[⟨Shop.item "7" 3 [Shop.created 1], .modified⟩, ⟨Shop.item "8" 0 [Shop.created 2], .added⟩]⟩

private def attemptBy (cancelled : Bool) (name : String) : Attempt where
  actor := some ⟨name, true⟩
  transactionId := Uuid.ofNat 9
  cancelled := cancelled
  now := Shop.opening

/-- Alice's commit meets the fault and Bob's is cancelled; Carol's then succeeds as if it were the
first. -/
theorem third_attempt_succeeds_as_first :
    Untouched .whole (delivery, shelf)
        ((commit (Store.committer .whole) (attemptBy false "alice")).run (delivery, shelf)).2 ∧
      ∃ y, FailedAttempts .whole (delivery, shelf) y ∧
      ((commit (Store.committer .whole) (attemptBy false "carol")).run y).1 =
        .ok (.ok ⟨Uuid.ofNat 9, 2, 2⟩) ∧
      (commit (Store.committer .whole) (attemptBy false "carol")).run y =
        (commit (Store.committer .whole) (attemptBy false "carol")).run
          (delivery, { shelf with faults := {} }) := by
  have alice : Fails .whole (attemptBy false "alice") (delivery, shelf) := by
    intro summary h
    have hrun : ((commit (Store.committer .whole) (attemptBy false "alice")).run
        (delivery, shelf)).1 = .ok (.error (.database "connection reset")) := rfl
    rw [hrun] at h
    cases h
  have hone := FailedAttempts.none.attempt (attemptBy false "alice") alice
  have bob : Fails .whole (attemptBy true "bob")
      ((commit (Store.committer .whole) (attemptBy false "alice")).run (delivery, shelf)).2 := by
    intro summary h
    rw [commit_of_cancelled rfl] at h
    cases h
  have htwo := hone.attempt (attemptBy true "bob") bob
  obtain ⟨huntouched, -, -, hretry⟩ := failed_commits_leave_no_trace .whole (delivery, shelf)
  exact ⟨huntouched _ alice, _, htwo, rfl, hretry _ htwo _ rfl⟩

end UnitOfWork

end EventOutbox
