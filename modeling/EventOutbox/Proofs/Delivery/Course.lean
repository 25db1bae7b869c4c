import EventOutbox.Proofs.Delivery.Cycle

/-!
# The course of a cycle

A cycle attempts the rows of its batch one after the other, until the batch is over or someone asks
it to stop.  Each attempt ends with a verdict of its own: the row is delivered, or a failure is
recorded for it.  The report of the cycle counts the verdicts.

## Main statements

- `Dispatcher.dispatchRow_attempt`: how the delivery of one row ends.
- `Dispatcher.dispatchOnce_round`: a cycle that reports fetches a batch and goes a course through
  it.
-/

namespace EventOutbox

variable {W κ : Type} [EventCatalog κ]

/-! ## §1 Verdicts -/

/-- What the attempt to deliver a row comes to. -/
inductive Verdict where
  /-- The row was read, published, and marked with a time. -/
  | published (at_ : Instant)
  /-- Publishing or marking the row failed. -/
  | failed (f : Failure)
  /-- The row could not be read. -/
  | skipped (f : Failure)

/-- How the row counts. -/
def Verdict.outcome : Verdict → RowOutcome
  | .published _ => .published
  | .failed _ => .failed
  | .skipped _ => .skipped

/-- The report after the rows with the given verdicts are counted, and those that were left out. -/
def DispatchReport.tally (r : DispatchReport) (verdicts : List Verdict) (cancelled : Nat) :
    DispatchReport :=
  { verdicts.foldl (fun r v => r.count v.outcome) r with cancelled }

namespace DispatchReport

/-- The number of rows that a report counts with an outcome. -/
def counted (r : DispatchReport) : RowOutcome → Nat
  | .published => r.published
  | .failed => r.failed
  | .skipped => r.skipped

/-- To count a row adds one to its own outcome and nothing to the others. -/
theorem counted_count (r : DispatchReport) (o p : RowOutcome) :
    (r.count o).counted p = r.counted p + if o = p then 1 else 0 := by
  cases o <;> cases p <;> rfl

/-- A tally adds, for each outcome, the number of the verdicts that come to it. -/
theorem counted_tally (r : DispatchReport) (verdicts : List Verdict) (cancelled : Nat)
    (p : RowOutcome) : (r.tally verdicts cancelled).counted p =
      r.counted p + verdicts.countP fun v => v.outcome = p := by
  -- the number of rows left out plays no part in the fold
  have hfold : (verdicts.foldl (fun r v => r.count v.outcome) r).counted p =
      r.counted p + verdicts.countP fun v => v.outcome = p := by
    induction verdicts generalizing r with
    | nil => rfl
    | cons v verdicts ih =>
      rw [List.foldl_cons, ih, counted_count, List.countP_cons, Nat.add_assoc]
      simp only [decide_eq_true_eq, Nat.add_comm]
  cases p <;> exact hfold

theorem fetched_tally (r : DispatchReport) (verdicts : List Verdict) (cancelled : Nat) :
    (r.tally verdicts cancelled).fetched = r.fetched := by
  show (verdicts.foldl (fun r v => r.count v.outcome) r).fetched = r.fetched
  induction verdicts generalizing r with
  | nil => rfl
  | cons v verdicts ih =>
    rw [List.foldl_cons, ih]
    cases v <;> rfl

end DispatchReport

/-- Every verdict counts in one of three ways. -/
theorem Verdict.countP_outcomes (verdicts : List Verdict) :
    (verdicts.countP fun v => v.outcome = .published) +
      (verdicts.countP fun v => v.outcome = .failed) +
      (verdicts.countP fun v => v.outcome = .skipped) = verdicts.length := by
  induction verdicts with
  | nil => rfl
  | cons v verdicts ih =>
    simp only [List.countP_cons, List.length_cons]
    cases v.outcome <;> simp only [decide_true, reduceCtorEq, decide_false, if_true,
      Bool.false_eq_true, if_false] <;> omega

namespace Dispatcher

open EventOutbox.Action

variable {d : Dispatcher W κ}

/-! ## §2 Attempts -/

/-- How the attempt to deliver a row ends that begins in a world: its verdict, and the world
afterwards.  The failure of a verdict is the one that was met for this row, and its text is what was
to be recorded. -/
inductive Attempt (d : Dispatcher W κ) (m : Message) (u : W) : Verdict → W → Prop where
  /-- The row cannot be read. -/
  | unreadable {cause answer u'} (decode : d.registry.decode m.eventType m.payload = .error cause)
      (recorded : (d.outbox.recordFailure m.id cause.failure.text).run u = (.ok answer, u')) :
      Attempt d m u (.skipped cause.failure) u'
  /-- The event is not published. -/
  | refused {event f u₁ answer u'} (decode : d.registry.decode m.eventType m.payload = .ok event)
      (publish : (d.publish event).run u = (.ok (.error f), u₁))
      (recorded : (d.outbox.recordFailure m.id f.text).run u₁ = (.ok answer, u')) :
      Attempt d m u (.failed f) u'
  /-- The event is published, and the row cannot be marked. -/
  | unmarked {event u₁ f u₂ answer u'}
      (decode : d.registry.decode m.eventType m.payload = .ok event)
      (publish : (d.publish event).run u = (.ok (.ok ()), u₁))
      (mark : (d.outbox.markProcessed m.id (d.clock u₁)).run u₁ = (.ok (.error f), u₂))
      (recorded : (d.outbox.recordFailure m.id f.text).run u₂ = (.ok answer, u')) :
      Attempt d m u (.failed f) u'
  /-- The event is published, and the row is marked. -/
  | published {event u₁ u'} (decode : d.registry.decode m.eventType m.payload = .ok event)
      (publish : (d.publish event).run u = (.ok (.ok ()), u₁))
      (mark : (d.outbox.markProcessed m.id (d.clock u₁)).run u₁ = (.ok (.ok ()), u')) :
      Attempt d m u (.published (d.clock u₁)) u'

/-- A failure is met, and recording it does not end the run. -/
theorem recordFailure_attempt (verdict : Verdict) {m : Message} {u u₀ : W} {f : Failure}
    (h : ∀ answer u', (d.outbox.recordFailure m.id f.text).run u₀ = (.ok answer, u') →
      d.Attempt m u verdict u') :
    (d.recordFailure m f verdict.outcome).Ensures u₀
      (fun outcome u' => ∃ v, v.outcome = outcome ∧ d.Attempt m u v u') fun _ => True := by
  rw [recordFailure_ensures]
  refine (ensures_true _ u₀).with_run.mono (fun answer u' ⟨hrun, _⟩ => ?_) fun _ h => h
  exact ⟨verdict, rfl, h answer u' hrun⟩

/-- The delivery of a row is an attempt, unless the run ends early. -/
theorem dispatchRow_attempt (d : Dispatcher W κ) (m : Message) (u : W) :
    (d.dispatchRow m).Ensures u
      (fun outcome u' => ∃ v, v.outcome = outcome ∧ d.Attempt m u v u') fun _ => True := by
  apply dispatchRow_ensures
  case unreadable =>
    intro cause hdecode
    exact recordFailure_attempt (.skipped cause.failure) fun _ _ hrecord =>
      .unreadable hdecode hrecord
  case readable =>
    intro event hdecode
    -- nothing is known of the publisher: its answer in this run decides how the attempt goes on
    refine (ensures_true _ u).with_run.mono (fun answer u₁ ⟨hpublish, _⟩ => ?_) fun _ h => h
    rcases answer with f | _
    · exact recordFailure_attempt (.failed f) fun _ _ hrecord =>
        .refused hdecode hpublish hrecord
    · refine (ensures_true _ u₁).with_run.mono (fun mark u₂ ⟨hmark, _⟩ => ?_) fun _ h => h
      rcases mark with f | _
      · exact recordFailure_attempt (.failed f) fun _ _ hrecord =>
          .unmarked hdecode hpublish hmark hrecord
      · exact ⟨.published (d.clock u₁), rfl, .published hdecode hpublish hmark⟩

/-! ## §3 Courses -/

/-- The way through a batch: its rows are attempted one after the other, with the given verdicts,
until it is over or the dispatcher finds that it is asked to stop. -/
inductive Course (d : Dispatcher W κ) : W → List Message → List Verdict → W → Prop where
  | finished (u) : Course d u [] [] u
  | stopped {u} (m ms) (stop : d.cancelled u = true) : Course d u (m :: ms) [] u
  | row {u m ms verdict u₁ verdicts u'} (go : d.cancelled u = false)
      (attempt : d.Attempt m u verdict u₁) (rest : Course d u₁ ms verdicts u') :
      Course d u (m :: ms) (verdict :: verdicts) u'

/-- A course never has more verdicts than the batch has rows. -/
theorem Course.length_le {u u' : W} {ms : List Message} {verdicts : List Verdict}
    (h : d.Course u ms verdicts u') : verdicts.length ≤ ms.length := by
  induction h with
  | finished => exact Nat.le_refl 0
  | stopped => exact Nat.zero_le _
  | row _ _ _ ih => exact Nat.succ_le_succ ih

/-- The way through the rows of a batch is a course, and its report is the tally of the verdicts. -/
theorem dispatchRows_course (d : Dispatcher W κ) {r : DispatchReport} (hr : r.cancelled = 0)
    (ms : List Message) (u : W) : (d.dispatchRows r ms).Ensures u
      (fun r' u' => ∃ verdicts, d.Course u ms verdicts u' ∧
        r' = r.tally verdicts (ms.length - verdicts.length)) fun _ => True := by
  -- on the rows of the batch: the verdict on the first one is counted before the others follow
  induction ms generalizing r u with
  | nil =>
    refine ⟨[], .finished u, ?_⟩
    obtain ⟨_, _, _, _, cancelled⟩ := r
    dsimp only at hr
    subst hr
    rfl
  | cons m ms ih =>
    rw [dispatchRows, ensures_bind, ensures_ask]
    cases hcancelled : d.cancelled u with
    | true => exact ⟨[], .stopped m ms hcancelled, rfl⟩
    | false =>
      rw [if_neg Bool.false_ne_true, ensures_bind]
      refine (dispatchRow_attempt d m u).mono (fun _ u₁ h => ?_) fun _ h => h
      obtain ⟨v, rfl, hattempt⟩ := h
      -- counting a verdict leaves no row out, so the induction applies to the counted report
      have hcount : (r.count v.outcome).cancelled = 0 := by
        cases v <;> exact hr
      refine (ih hcount u₁).mono (fun r' u' h => ?_) fun _ h => h
      obtain ⟨verdicts, hcourse, htally⟩ := h
      refine ⟨v :: verdicts, .row hcancelled hattempt hcourse, ?_⟩
      rw [htally, List.length_cons, List.length_cons, Nat.add_sub_add_right]
      rfl

/-! ## §4 Rounds -/

/-- What happens in a cycle that reports, from the world before it to the world after it: the
batch that it fetches, the verdicts on the rows that it gets to, and its report. -/
inductive Round (d : Dispatcher W κ) (w : W) :
    List Message → List Verdict → DispatchReport → W → Prop where
  /-- There is nothing to deliver. -/
  | nothing {w₁ w'} (fetch : d.fetchBatch.run w = (.ok (.ok []), w₁))
      (idle : (d.setPhase .idle).run w₁ = (.ok (), w')) : Round d w [] [] {} w'
  /-- The batch is delivered as far as the dispatcher gets. -/
  | delivery {m ms verdicts w₁ w₂ u u' w₃ w'}
      (fetch : d.fetchBatch.run w = (.ok (.ok (m :: ms)), w₁))
      (fetched : (d.setPhase .batchFetched).run w₁ = (.ok (), w₂))
      (publishing : (d.setPhase .publishing).run w₂ = (.ok (), u))
      (course : d.Course u (m :: ms) verdicts u')
      (complete : (d.setPhase .batchComplete).run u' = (.ok (), w₃))
      (idle : (d.setPhase .idle).run w₃ = (.ok (), w')) :
      Round d w (m :: ms) verdicts
        (({ fetched := (m :: ms).length } : DispatchReport).tally verdicts
          ((m :: ms).length - verdicts.length)) w'

/-- A round tells what was fetched. -/
theorem Round.fetch_run {w w' : W} {batch : List Message} {verdicts : List Verdict}
    {r : DispatchReport} (h : d.Round w batch verdicts r w') :
    ∃ w₁, d.fetchBatch.run w = (.ok (.ok batch), w₁) := by
  cases h with
  | nothing fetch => exact ⟨_, fetch⟩
  | delivery fetch => exact ⟨_, fetch⟩

/-- No round comes to more verdicts than it fetched rows. -/
theorem Round.length_le {w w' : W} {batch : List Message} {verdicts : List Verdict}
    {r : DispatchReport} (h : d.Round w batch verdicts r w') :
    verdicts.length ≤ batch.length := by
  cases h with
  | nothing => exact Nat.le_refl 0
  | delivery _ _ _ course => exact course.length_le

/-- The report counts the batch, the verdicts, and the rows that were left out. -/
theorem Round.report_eq {w w' : W} {batch : List Message} {verdicts : List Verdict}
    {r : DispatchReport} (h : d.Round w batch verdicts r w') :
    r = ({ fetched := batch.length } : DispatchReport).tally verdicts
      (batch.length - verdicts.length) := by
  cases h <;> rfl

/-- A cycle that reports is a round. -/
theorem dispatchOnce_round (d : Dispatcher W κ) (w : W) :
    d.dispatchOnce.Ensures w (fun answer w' => ∀ r, answer = .ok r →
      ∃ batch verdicts, d.Round w batch verdicts r w') fun _ => True := by
  have hphase : ∀ p u, (d.setPhase p).Ensures u
      (fun _ u' => (d.setPhase p).run u = (.ok (), u')) fun _ => True := fun p u =>
    (ensures_true _ u).with_run.mono (fun _ _ h => h.1) fun _ h => h
  cases hproblem : d.config.problem? with
  | some p =>
    -- a refused configuration is an error, and no report
    simp only [dispatchOnce, hproblem]
    exact fun r hanswer => by cases hanswer
  | none =>
    rw [dispatchOnce_eq hproblem, ensures_bind]
    refine (ensures_true _ w).with_run.mono (fun answer w₁ h => ?_) fun _ h => h
    obtain ⟨hfetch, -⟩ := h
    -- the fetch failed, there is nothing to deliver, or there is a batch
    rcases answer with f | _ | ⟨m, ms⟩
    · rw [handleBatch, ensures_bind]
      exact (hphase _ w₁).mono (fun _ _ _ r hanswer => by cases hanswer) fun _ h => h
    · rw [handleBatch, ensures_bind]
      refine (hphase _ w₁).mono (fun _ w' hidle r hanswer => ?_) fun _ h => h
      cases hanswer
      exact ⟨[], [], .nothing hfetch hidle⟩
    · simp only [handleBatch, dispatchBatch, ensures_bind, ensures_pure]
      refine (hphase _ w₁).mono (fun _ w₂ hfetched => ?_) fun _ h => h
      refine (hphase _ w₂).mono (fun _ u hpublishing => ?_) fun _ h => h
      refine (dispatchRows_course d rfl (m :: ms) u).mono (fun _ u' h => ?_) fun _ h => h
      obtain ⟨verdicts, hcourse, htally⟩ := h
      refine (hphase _ u').mono (fun _ w₃ hcomplete => ?_) fun _ h => h
      refine (hphase _ w₃).mono (fun _ w' hidle r hanswer => ?_) fun _ h => h
      cases hanswer
      subst htally
      exact ⟨m :: ms, verdicts, .delivery hfetch hfetched hpublishing hcourse hcomplete hidle⟩

end Dispatcher

end EventOutbox
