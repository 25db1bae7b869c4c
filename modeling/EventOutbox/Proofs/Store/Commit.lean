import EventOutbox.Proofs.Store.Rows

/-!
# Commits of a store

What one commit of a change set does to a store, as a relation with one case for each way in which
it ends.  The cases are those of change sets whose versions are not used up; a unit of work hands
over no others.
-/

namespace EventOutbox

/-- Every change of the set has a next version. -/
def ChangeSet.Versioned (cs : ChangeSet) : Prop :=
  ∀ c ∈ cs.entities, ∃ v, c.kind.nextVersion? = some v

namespace Store

/-! ## §1 Outcomes -/

/-- Two stores differ at most in the faults that are armed. -/
structure SameTables (s s' : Store) : Prop where
  entities : s'.entities = s.entities
  outbox : s'.outbox = s.outbox
  nextSeq : s'.nextSeq = s.nextSeq
  ledger : s'.ledger = s.ledger

theorem SameTables.refl (s : Store) : s.SameTables s := ⟨rfl, rfl, rfl, rfl⟩

theorem SameTables.trans {a b c : Store} (h : a.SameTables b) (h' : b.SameTables c) :
    a.SameTables c where
  entities := h'.entities.trans h.entities
  outbox := h'.outbox.trans h.outbox
  nextSeq := h'.nextSeq.trans h.nextSeq
  ledger := h'.ledger.trans h.ledger

/-- A store with the tables of another is that store with its own faults. -/
theorem SameTables.eq_with_faults {s s' : Store} (h : s.SameTables s') :
    s' = { s with faults := s'.faults } := by
  obtain ⟨hentities, houtbox, hnextSeq, hledger⟩ := h
  cases s'
  simp only at hentities houtbox hnextSeq hledger
  simp only [hentities, houtbox, hnextSeq, hledger]

/-- How the commit of a change set ends, and the store afterwards. -/
inductive CommitOutcome (s : Store) (cs : ChangeSet) :
    Except Abort (Except StoreError Receipt) → Store → Prop where
  /-- A fault was armed; it is used up. -/
  | faulted (e : StoreError) (armed : s.faults.commit = some e) :
      CommitOutcome s cs (.ok (.error e)) { s with faults := { s.faults with commit := none } }
  /-- A change does not fit the entity rows. -/
  | refused (e : StoreError) (unarmed : s.faults.commit = none)
      (refusal : cs.entities.findSome? (refusal? s.entities) = some e) :
      CommitOutcome s cs (.ok (.error e)) s
  /-- All changes are applied, and new messages are added. -/
  | written (entities : Table EntityKey EntityRow) (unarmed : s.faults.commit = none)
      (accepted : cs.entities.findSome? (refusal? s.entities) = none) :
      CommitOutcome s cs (.ok (.ok ⟨cs.entities.length, (novel s.ids cs.messages).length⟩))
        ({ s with entities }.addRows (novel s.ids cs.messages))

/-- A change that has a version files its row. -/
theorem applyChange_run {c : Change} {v : UInt64} (h : c.kind.nextVersion? = some v) (s : Store) :
    (applyChange c).run s = (.ok (), { s with entities := s.entities.put c.key (rowOf c v) }) := by
  have hv : c.nextVersion = (pure v : Action Store UInt64) := by
    rw [Change.nextVersion, h]
  rw [applyChange, hv]
  rfl

/-- Applying changes whose versions are not used up answers, and touches entity rows only. -/
theorem applyChanges_run {cs : List Change} (h : ∀ c ∈ cs, ∃ v, c.kind.nextVersion? = some v)
    (s : Store) : ∃ entities, (applyChanges cs).run s = (.ok (), { s with entities }) := by
  induction cs generalizing s with
  | nil => exact ⟨s.entities, rfl⟩
  | cons c cs ih =>
    obtain ⟨v, hv⟩ := h c List.mem_cons_self
    obtain ⟨entities, hrest⟩ := ih (fun c hc => h c (List.mem_cons_of_mem _ hc))
      { s with entities := s.entities.put c.key (rowOf c v) }
    refine ⟨entities, ?_⟩
    rw [applyChanges, Action.run_bind_of_ok (applyChange_run hv s), hrest]

/-- The ways of a commit when every change has a version: nothing else can end it early. -/
theorem commit_outcome {cs : ChangeSet} (hcs : cs.Versioned) (s : Store) :
    CommitOutcome s cs ((commit cs).run s).1 ((commit cs).run s).2 := by
  rw [commit, Action.run_bind_of_ok (Action.run_ask _ s)]
  cases hfault : s.faults.commit with
  | some e => exact .faulted e hfault
  | none =>
    cases hrefusal : cs.entities.findSome? (refusal? s.entities) with
    | some e => exact .refused e hfault hrefusal
    | none =>
      -- nothing can fail from here on: every change has a version, and inserting always answers
      obtain ⟨entities, happly⟩ := applyChanges_run hcs s
      have hinsert := insertMessages_eq { s with entities } cs.messages
      simp only [Action.run_bind_of_ok happly, Action.run_bind_of_ok (Action.run_step _ _),
        Action.run_pure, hinsert]
      exact .written entities hfault hrefusal

/-! ## §2 Bounds for commits -/

section Within

variable {R : Store → Store → Prop} (refl : ∀ s, R s s) (trans : ∀ a b c, R a b → R b c → R a c)
variable (put : ∀ (s : Store) (c : Change) (v : UInt64), c.kind.nextVersion? = some v →
  R s { s with entities := s.entities.put c.key (rowOf c v) })

include refl put

/-- Writing a change files its row; where versions are used up, the run ends before. -/
theorem applyChange_within (c : Change) : (applyChange c).Within R := by
  intro s
  cases hv : c.kind.nextVersion? with
  -- the version is read before the row is filed
  | some v =>
    rw [applyChange_run hv s]
    exact put s c v hv
  | none =>
    have hfull : c.nextVersion = (.abort .versionFull : Action Store UInt64) := by
      rw [Change.nextVersion, hv]
    rw [applyChange, hfull, Action.run_bind_of_error (Action.run_abort _ s)]
    exact refl s

include trans

/-- Changes one after the other are bounded by what bounds each of them. -/
theorem applyChanges_within (cs : List Change) : (applyChanges cs).Within R := by
  induction cs with
  | nil => exact Action.within_pure refl ()
  | cons c cs ih => exact Action.Within.bind trans (applyChange_within refl put c) fun _ => ih

/-- A commit is bounded by what bounds its parts, however it ends: meeting a fault, filing the rows
that changes leave, and inserting messages. -/
theorem commit_within_of (fault : ∀ (s : Store) (faults : Faults), R s { s with faults })
    (insert : ∀ (s : Store) (ms : List Message), R s (s.insertMessages ms).2) (cs : ChangeSet) :
    (commit cs).Within R := by
  refine Action.Within.bind trans (Action.within_ask refl _) fun s => ?_
  split
  · refine Action.Within.bind trans (fun s => fault s _) fun _ => ?_
    exact Action.within_pure refl _
  -- an armed fault is met before the changes are looked at, and a refusal before any of them is
  -- written
  · split
    · exact Action.within_pure refl _
    · refine Action.Within.bind trans (applyChanges_within refl trans put cs.entities) fun _ => ?_
      refine Action.Within.bind trans (fun s => insert s cs.messages) fun _ => ?_
      exact Action.within_pure refl _

end Within

/-! ## §3 Commits that are not accepted -/

/-- A commit that is not accepted changes nothing but the armed faults. -/
theorem CommitOutcome.sameTables {s s' : Store} {cs : ChangeSet}
    {answer : Except Abort (Except StoreError Receipt)} (h : CommitOutcome s cs answer s')
    (hanswer : ∀ receipt, answer ≠ .ok (.ok receipt)) : s.SameTables s' := by
  cases h with
  | faulted => exact ⟨rfl, rfl, rfl, rfl⟩
  | refused => exact SameTables.refl s
  | written => exact absurd rfl (hanswer _)

end Store

end EventOutbox
