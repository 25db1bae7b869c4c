import EventOutbox.Delivery.Dispatcher
import EventOutbox.Proofs.ActionLogic

/-!
# Rules for cycles of a dispatcher

How to reason about a cycle from what its ports do.  A cycle whose ports are bounded by a relation
is bounded by it.  To follow one cycle more closely, give an assertion about the rows that were
visited so far: if every row that is delivered extends it, it holds at the end of the rows that the
cycle reached.

## Main statements

- `Dispatcher.dispatchOnce_within`
- `Dispatcher.dispatchOnce_ensures`
-/

namespace EventOutbox

/-! ## §1 Configurations -/

namespace DispatcherConfig

variable {c : DispatcherConfig}

/-- A configuration is valid when its interval is some time, its batches hold some rows, and rows
may be attempted. -/
theorem problem?_eq_none_iff : c.problem? = none ↔
    c.pollInterval.isZero = false ∧ c.batchSize ≠ 0 ∧ c.maxAttempts ≠ some 0 := by
  by_cases hinterval : c.pollInterval.isZero = true
  · simp [problem?, hinterval]
  · by_cases hbatch : c.batchSize = 0
    · simp [problem?, hinterval, hbatch]
    · by_cases hlimit : c.maxAttempts = some 0 <;> simp [problem?, hinterval, hbatch, hlimit]

/-- Another size of batches keeps a configuration valid. -/
theorem problem?_of_batchSize (valid : c.problem? = none) {b : UInt32} (hb : b ≠ 0) :
    ({ c with batchSize := b } : DispatcherConfig).problem? = none := by
  obtain ⟨hinterval, -, hlimit⟩ := problem?_eq_none_iff.mp valid
  exact problem?_eq_none_iff.mpr ⟨hinterval, hb, hlimit⟩

end DispatcherConfig

namespace Dispatcher

open EventOutbox.Action

variable {W κ : Type} [EventCatalog κ]

/-! ## §2 Bounded ports -/

/-- Everything that a dispatcher calls is bounded by a relation. -/
structure PortsWithin (R : W → W → Prop) (d : Dispatcher W κ) : Prop where
  fetch : ∀ limit maxAttempts, (d.outbox.fetch limit maxAttempts).Within R
  markProcessed : ∀ id at_, (d.outbox.markProcessed id at_).Within R
  recordFailure : ∀ id error, (d.outbox.recordFailure id error).Within R
  publish : ∀ e, (d.publish e).Within R
  setPhase : ∀ p, (d.setPhase p).Within R

section Within

variable {R : W → W → Prop} (refl : ∀ w, R w w) (trans : ∀ u v w, R u v → R v w → R u w)
variable {d : Dispatcher W κ}

include refl trans

/-- A row is delivered by publishing and by calls about it. -/
theorem dispatchRow_within {m : Message}
    (markProcessed : ∀ at_, (d.outbox.markProcessed m.id at_).Within R)
    (recordFailure : ∀ error, (d.outbox.recordFailure m.id error).Within R)
    (publish : ∀ e, (d.publish e).Within R) : (d.dispatchRow m).Within R := by
  have hfails : ∀ f outcome, (d.recordFailure m f outcome).Within R := fun f outcome =>
    Within.bind trans (recordFailure f.text) fun _ => within_pure refl outcome
  unfold dispatchRow
  -- a row that cannot be read is not published, and its failure is all that is recorded
  split
  · exact hfails _ _
  · refine Within.bind trans (publish _) fun answer => ?_
    split
    · exact hfails _ _
    · refine Within.bind trans (within_ask refl _) fun now => ?_
      refine Within.bind trans (markProcessed now) fun mark => ?_
      split
      · exact hfails _ _
      · exact within_pure refl _

/-- The rows of a batch are bounded by what bounds each of them. -/
theorem dispatchRows_within_of_rows {ms : List Message}
    (rows : ∀ m ∈ ms, (d.dispatchRow m).Within R) (r : DispatchReport) :
    (d.dispatchRows r ms).Within R := by
  induction ms generalizing r with
  | nil => exact within_pure refl r
  | cons m ms ih =>
    refine Within.bind trans (within_ask refl _) fun cancelled => ?_
    split
    · exact within_pure refl _
    · refine Within.bind trans (rows m List.mem_cons_self) fun outcome => ?_
      exact ih (fun m hm => rows m (List.mem_cons_of_mem _ hm)) _

/-- A bound on the ports bounds the way through any rows. -/
theorem dispatchRows_within (h : d.PortsWithin R) (r : DispatchReport) (ms : List Message) :
    (d.dispatchRows r ms).Within R :=
  dispatchRows_within_of_rows refl trans
    (fun m _ => dispatchRow_within refl trans (h.markProcessed m.id) (h.recordFailure m.id)
      h.publish) r

/-- A bound on the ports bounds a batch with the phases around it. -/
theorem dispatchBatch_within (h : d.PortsWithin R) (batch : List Message) :
    (d.dispatchBatch batch).Within R := by
  refine Within.bind trans (h.setPhase _) fun _ => ?_
  refine Within.bind trans (h.setPhase _) fun _ => ?_
  refine Within.bind trans (dispatchRows_within refl trans h _ batch) fun report => ?_
  refine Within.bind trans (h.setPhase _) fun _ => ?_
  exact Within.bind trans (h.setPhase _) fun _ => within_pure refl _

/-- A cycle is bounded by what bounds its ports. -/
theorem dispatchOnce_within (h : d.PortsWithin R) : d.dispatchOnce.Within R := by
  unfold dispatchOnce
  split
  · exact within_pure refl _
  · refine Within.bind trans (h.setPhase _) fun _ => ?_
    refine Within.bind trans (h.fetch _ _) fun answer => ?_
    split
    · exact Within.bind trans (h.setPhase _) fun _ => within_pure refl _
    · exact Within.bind trans (h.setPhase _) fun _ => within_pure refl _
    · exact Within.bind trans (dispatchBatch_within refl trans h _) fun _ => within_pure refl _

end Within

/-! ## §3 Single rows -/

variable {d : Dispatcher W κ} {X : W → Prop}

/-- To record a failure is one call, whose answer does not decide how the row counts. -/
theorem recordFailure_ensures {m : Message} {f : Failure} {outcome : RowOutcome} {w : W}
    {Q : RowOutcome → W → Prop} :
    (d.recordFailure m f outcome).Ensures w Q X ↔
      (d.outbox.recordFailure m.id f.text).Ensures w (fun _ w' => Q outcome w') X := by
  simp only [recordFailure, ensures_bind, ensures_pure]

/-- The ways of one row: it cannot be read, its event is refused, or it is marked or cannot be. -/
theorem dispatchRow_ensures {m : Message} {w : W} {Q : RowOutcome → W → Prop}
    (unreadable : ∀ e, d.registry.decode m.eventType m.payload = .error e →
      (d.recordFailure m e.failure .skipped).Ensures w Q X)
    (readable : ∀ event, d.registry.decode m.eventType m.payload = .ok event →
      (d.publish event).Ensures w (fun
        | .error f, w' => (d.recordFailure m f .failed).Ensures w' Q X
        | .ok (), w' => (d.outbox.markProcessed m.id (d.clock w')).Ensures w' (fun
          | .error f, w'' => (d.recordFailure m f .failed).Ensures w'' Q X
          | .ok (), w'' => Q .published w'') X) X) :
    (d.dispatchRow m).Ensures w Q X := by
  unfold dispatchRow
  cases hdecode : d.registry.decode m.eventType m.payload with
  | error e => exact unreadable e hdecode
  | ok event =>
    rw [ensures_bind]
    -- the publisher answers first, and the mark is tried only after an event that was published
    refine (readable event hdecode).mono (fun answer w' hpublish => ?_) fun _ h => h
    rcases answer with f | _
    · exact hpublish
    · rw [ensures_bind, ensures_ask, ensures_bind]
      refine Ensures.mono hpublish (fun mark w'' hmark => ?_) fun _ h => h
      rcases mark with f | _
      · exact hmark
      · exact hmark

/-! ## §4 Batches and cycles -/

/-- The first part of a cycle. -/
def fetchBatch (d : Dispatcher W κ) : Action W (Except Failure (List Message)) := do
  d.setPhase .polling
  d.outbox.fetch d.config.batchSize d.config.maxAttempts

/-- The second part of a cycle. -/
def handleBatch (d : Dispatcher W κ) :
    Except Failure (List Message) → Action W (Except Failure DispatchReport)
  | .error f => do
    d.setPhase .idle
    pure (.error f)
  | .ok [] => do
    d.setPhase .idle
    pure (.ok {})
  | .ok (m :: ms) => do
    let report ← d.dispatchBatch (m :: ms)
    pure (.ok report)

/-- A refused configuration ends a cycle before anything happens. -/
theorem dispatchOnce_of_problem {p : DispatcherConfigProblem}
    (hproblem : d.config.problem? = some p) (w : W) :
    d.dispatchOnce.run w = (.ok (.error p.failure), w) := by
  simp only [dispatchOnce, hproblem, run_pure]

/-- A cycle of a valid configuration has two parts. -/
theorem dispatchOnce_eq (valid : d.config.problem? = none) :
    d.dispatchOnce = d.fetchBatch >>= d.handleBatch := by
  rw [fetchBatch, bind_assoc]
  simp only [dispatchOnce, valid]
  rfl

/-- The rows that a cycle fetches. -/
def batch (d : Dispatcher W κ) (w : W) : List Message :=
  match d.fetchBatch.run w with
  | (.ok (.ok rows), _) => rows
  | _ => []

/-- The rows of a batch that a cycle with this answer got to. -/
def reachedRows (batch : List Message) : Except Failure DispatchReport → List Message
  | .ok report => batch.take (report.fetched - report.cancelled)
  | .error _ => []

/-- The rows that a cycle gets to. -/
def reached (d : Dispatcher W κ) (w : W) : List Message :=
  match (d.dispatchOnce.run w).1 with
  | .ok answer => reachedRows (d.batch w) answer
  | .error _ => []

/-- An assertion that every delivered row extends holds where the loop stops. -/
theorem dispatchRows_ensures {I : List Message → W → Prop} {batch visited rest : List Message}
    {w : W} {r : DispatchReport} (hbatch : batch = visited ++ rest) (holds : I visited w)
    (row : ∀ visited m rest w, batch = visited ++ m :: rest → I visited w →
      (d.dispatchRow m).Ensures w (fun _ w' => I (visited ++ [m]) w') X)
    (hfetched : r.fetched = batch.length) (hcancelled : r.cancelled = 0) :
    (d.dispatchRows r rest).Ensures w
      (fun r' w' => I (reachedRows batch (.ok r')) w') X := by
  induction rest generalizing visited w r with
  | nil =>
    -- the loop came to its end: nothing was left out, so the report stands for the whole batch
    rw [dispatchRows, ensures_pure, reachedRows, hfetched, hcancelled, Nat.sub_zero,
      List.take_length, hbatch, List.append_nil]
    exact holds
  | cons m rest ih =>
    rw [dispatchRows, ensures_bind, ensures_ask]
    split
    · -- the cycle stops here, and the rows visited are a prefix of the batch
      have hreached :
          reachedRows batch (.ok { r with cancelled := rest.length + 1 }) = visited := by
        have hlength : batch.length = visited.length + (rest.length + 1) := by
          rw [hbatch, List.length_append, List.length_cons]
        rw [reachedRows, hfetched, hlength, Nat.add_sub_cancel, hbatch, List.take_left]
      rw [ensures_pure, hreached]
      exact holds
    · rw [ensures_bind]
      refine (row visited m rest w hbatch holds).mono (fun outcome w' hrow => ?_) fun _ h => h
      refine ih ?_ hrow ?_ ?_
      · rw [hbatch, List.append_assoc, List.singleton_append]
      · cases outcome <;> exact hfetched
      · cases outcome <;> exact hcancelled

/-- The same for a batch with the phases around it, which keep the assertion. -/
theorem dispatchBatch_ensures {I : List Message → W → Prop} {batch : List Message} {w : W}
    (start : I [] w)
    (phase : ∀ p visited w, I visited w → (d.setPhase p).Ensures w (fun _ w' => I visited w') X)
    (row : ∀ visited m rest w, batch = visited ++ m :: rest → I visited w →
      (d.dispatchRow m).Ensures w (fun _ w' => I (visited ++ [m]) w') X) :
    (d.dispatchBatch batch).Ensures w
      (fun r w' => I (reachedRows batch (.ok r)) w') X := by
  simp only [dispatchBatch, ensures_bind, ensures_pure]
  refine (phase _ _ w start).mono (fun _ w₁ h₁ => ?_) fun _ h => h
  refine (phase _ _ w₁ h₁).mono (fun _ w₂ h₂ => ?_) fun _ h => h
  refine (dispatchRows_ensures rfl h₂ row rfl rfl).mono (fun r w₃ h₃ => ?_) fun _ h => h
  refine (phase _ _ w₃ h₃).mono (fun _ w₄ h₄ => ?_) fun _ h => h
  exact phase _ _ w₄ h₄

/-- An assertion about the visited rows holds at the end of a cycle, for the rows that the cycle
reached: when it holds at the start and after the fetch, the phases keep it, and every delivered row
extends it. -/
theorem dispatchOnce_ensures {I : List Message → W → Prop} {w : W} (start : I [] w)
    (fetch : d.fetchBatch.Ensures w (fun _ w' => I [] w') X)
    (phase : ∀ p visited w, I visited w → (d.setPhase p).Ensures w (fun _ w' => I visited w') X)
    (row : ∀ visited m rest w', d.batch w = visited ++ m :: rest → I visited w' →
      (d.dispatchRow m).Ensures w' (fun _ w'' => I (visited ++ [m]) w'') X) :
    d.dispatchOnce.Ensures w (fun answer w' => I (reachedRows (d.batch w) answer) w') X := by
  cases hproblem : d.config.problem? with
  | some p =>
    simp only [dispatchOnce, hproblem]
    exact start
  | none =>
    rw [dispatchOnce_eq hproblem, ensures_bind]
    -- what the fetch answers with is the batch
    refine fetch.with_run.mono (fun answer w' ⟨hrun, hholds⟩ => ?_) fun _ h => h
    have hbatch : ∀ rows, answer = .ok rows → d.batch w = rows := by
      rintro rows rfl
      rw [batch, hrun]
    -- the fetch failed, there is nothing to deliver, or there is a batch
    rcases answer with f | _ | ⟨m, ms⟩
    · rw [handleBatch, ensures_bind]
      exact phase _ _ w' hholds
    · rw [handleBatch, ensures_bind]
      refine (phase _ _ w' hholds).mono (fun _ w₁ h₁ => ?_) fun _ h => h
      rw [ensures_pure, hbatch [] rfl]
      exact h₁
    · rw [hbatch (m :: ms) rfl] at row ⊢
      rw [handleBatch, ensures_bind]
      exact dispatchBatch_ensures hholds phase row

/-- The assertion at the end of a cycle, when no run of the cycle ends early. -/
theorem holds_after_cycle {I : List Message → W → Prop} {w : W}
    (h : d.dispatchOnce.Ensures w (fun answer w' => I (reachedRows (d.batch w) answer) w')
      (fun _ => False)) : I (d.reached w) (d.dispatchOnce.run w).2 := by
  unfold Ensures at h
  unfold reached
  split at h <;> rename_i heq
  · rw [heq]
    exact h
  · exact h.elim

/-- Where a cycle answers, the answer tells which rows it got to. -/
theorem reached_of_answer {w : W} {answer : Except Failure DispatchReport}
    (h : (d.dispatchOnce.run w).1 = .ok answer) : d.reached w = reachedRows (d.batch w) answer := by
  rw [reached, h]

/-- The rows that a cycle gets to are the first ones of its batch. -/
theorem reached_sublist (d : Dispatcher W κ) (w : W) : (d.reached w).Sublist (d.batch w) := by
  unfold reached
  split
  · unfold reachedRows
    split
    · exact List.take_sublist _ _
    · exact List.nil_sublist _
  · exact List.nil_sublist _

/-! ## §5 Cycles that nobody stops -/

/-- A batch that nobody stops is visited as a whole.  The assertion may also be about the report so
far. -/
theorem dispatchRows_ensures_all {I : DispatchReport → List Message → W → Prop}
    {batch visited rest : List Message} {w : W} {r : DispatchReport}
    (uncancelled : ∀ r visited w, I r visited w → d.cancelled w = false)
    (hbatch : batch = visited ++ rest) (holds : I r visited w)
    (row : ∀ r visited m rest w, batch = visited ++ m :: rest → I r visited w →
      (d.dispatchRow m).Ensures w (fun outcome w' => I (r.count outcome) (visited ++ [m]) w') X) :
    (d.dispatchRows r rest).Ensures w (fun r' w' => I r' batch w') X := by
  -- on the rows to come: the asker says no before each of them, by the assertion itself
  induction rest generalizing visited w r with
  | nil =>
    rw [dispatchRows, ensures_pure, hbatch, List.append_nil]
    exact holds
  | cons m rest ih =>
    rw [dispatchRows, ensures_bind, ensures_ask, uncancelled r visited w holds,
      if_neg Bool.false_ne_true, ensures_bind]
    refine (row r visited m rest w hbatch holds).mono (fun outcome w' hrow => ?_) fun _ h => h
    refine ih ?_ hrow
    rw [hbatch, List.append_assoc, List.singleton_append]

/-- A cycle that nobody stops visits the whole batch that it fetches. -/
theorem dispatchOnce_ensures_all {I : DispatchReport → List Message → W → Prop}
    {batch : List Message} {w : W} (valid : d.config.problem? = none)
    (uncancelled : ∀ r visited w, I r visited w → d.cancelled w = false)
    (fetch : d.fetchBatch.Ensures w
      (fun answer w' => answer = .ok batch ∧ I { fetched := batch.length } [] w') X)
    (phase : ∀ p r visited w, I r visited w →
      (d.setPhase p).Ensures w (fun _ w' => I r visited w') X)
    (row : ∀ r visited m rest w, batch = visited ++ m :: rest → I r visited w →
      (d.dispatchRow m).Ensures w (fun outcome w' => I (r.count outcome) (visited ++ [m]) w') X) :
    d.dispatchOnce.Ensures w (fun answer w' => ∃ r, answer = .ok r ∧ I r batch w') X := by
  rw [dispatchOnce_eq valid, ensures_bind]
  refine fetch.mono (fun answer w₁ ⟨hanswer, hholds⟩ => ?_) fun _ h => h
  subst hanswer
  cases batch with
  | nil =>
    rw [handleBatch, ensures_bind]
    exact (phase _ _ _ w₁ hholds).mono (fun _ w₂ h₂ => ⟨{}, rfl, h₂⟩) fun _ h => h
  | cons m ms =>
    simp only [handleBatch, dispatchBatch, ensures_bind, ensures_pure]
    refine (phase _ _ _ w₁ hholds).mono (fun _ w₂ h₂ => ?_) fun _ h => h
    refine (phase _ _ _ w₂ h₂).mono (fun _ w₃ h₃ => ?_) fun _ h => h
    refine (dispatchRows_ensures_all uncancelled rfl h₃ row).mono (fun r w₄ h₄ => ?_) fun _ h => h
    refine (phase _ _ _ w₄ h₄).mono (fun _ w₅ h₅ => ?_) fun _ h => h
    exact (phase _ _ _ w₅ h₅).mono (fun _ w₆ h₆ => ⟨r, rfl, h₆⟩) fun _ h => h

/-- A cycle that fetches nothing. -/
theorem dispatchOnce_run_of_empty {w v v' : W} (valid : d.config.problem? = none)
    (fetch : d.fetchBatch.run w = (.ok (.ok []), v))
    (idle : (d.setPhase .idle).run v = (.ok (), v')) :
    d.dispatchOnce.run w = (.ok (.ok {}), v') := by
  rw [dispatchOnce_eq valid, run_bind_of_ok fetch, handleBatch, run_bind_of_ok idle, run_pure]

/-! ## §6 What a cycle answers -/

/-- Whatever becomes of the rows, the number of those fetched stays in the report as it was. -/
theorem dispatchRows_fetched (d : Dispatcher W κ) (r : DispatchReport) (ms : List Message) (w : W) :
    (d.dispatchRows r ms).Ensures w (fun r' _ => r'.fetched = r.fetched) fun _ => True := by
  induction ms generalizing r w with
  | nil => exact rfl
  | cons m ms ih =>
    rw [dispatchRows, ensures_bind, ensures_ask]
    split
    · exact rfl
    · rw [ensures_bind]
      refine (ensures_true _ w).mono (fun outcome w' _ => ?_) fun _ h => h
      refine (ih (r.count outcome) w').mono (fun r' _ h => h.trans ?_) fun _ h => h
      cases outcome <;> rfl

/-- The report of a batch tells how many rows it has. -/
theorem dispatchBatch_fetched (d : Dispatcher W κ) (batch : List Message) (w : W) :
    (d.dispatchBatch batch).Ensures w (fun r _ => r.fetched = batch.length) fun _ => True := by
  simp only [dispatchBatch, ensures_bind, ensures_pure]
  refine (ensures_true _ w).mono (fun _ w₁ _ => ?_) fun _ h => h
  refine (ensures_true _ w₁).mono (fun _ w₂ _ => ?_) fun _ h => h
  refine (dispatchRows_fetched d _ batch w₂).mono (fun r w₃ hfetched => ?_) fun _ h => h
  refine (ensures_true _ w₃).mono (fun _ w₄ _ => ?_) fun _ h => h
  exact (ensures_true _ w₄).mono (fun _ _ _ => hfetched) fun _ h => h

/-- The answer of a cycle: a failure is one of the configuration or of the fetch, and a report tells
how many rows were fetched. -/
inductive Answered (d : Dispatcher W κ) (w : W) : Except Failure DispatchReport → Prop where
  | invalid (p) (problem : d.config.problem? = some p) : Answered d w (.error p.failure)
  | unfetched (f) (valid : d.config.problem? = none)
      (fetch : (d.fetchBatch.run w).1 = .ok (.error f)) : Answered d w (.error f)
  | reported (r : DispatchReport) (valid : d.config.problem? = none)
      (fetch : (d.fetchBatch.run w).1 = .ok (.ok (d.batch w)))
      (fetched : r.fetched = (d.batch w).length) : Answered d w (.ok r)

/-- What the fetch answers with is the batch of the cycle. -/
theorem batch_of_fetch {w : W} {rows : List Message}
    (h : (d.fetchBatch.run w).1 = .ok (.ok rows)) : d.batch w = rows := by
  obtain ⟨w', hrun⟩ : ∃ w', d.fetchBatch.run w = (.ok (.ok rows), w') := ⟨_, Prod.ext h rfl⟩
  rw [batch, hrun]

/-- Every answer of a cycle has one of three forms, according to the configuration and the fetch. -/
theorem dispatchOnce_answered (d : Dispatcher W κ) (w : W) :
    d.dispatchOnce.Ensures w (fun answer _ => Answered d w answer) fun _ => True := by
  cases hproblem : d.config.problem? with
  | some p =>
    simp only [dispatchOnce, hproblem]
    exact .invalid p hproblem
  | none =>
    rw [dispatchOnce_eq hproblem, ensures_bind]
    refine (ensures_true d.fetchBatch w).with_run.mono (fun answer w₁ ⟨hrun, _⟩ => ?_) fun _ h => h
    have hanswer : (d.fetchBatch.run w).1 = .ok answer := by rw [hrun]
    rcases answer with f | _ | ⟨m, ms⟩
    · rw [handleBatch, ensures_bind]
      exact (ensures_true _ w₁).mono (fun _ _ _ => .unfetched f hproblem hanswer) fun _ h => h
    · have hbatch := batch_of_fetch hanswer
      rw [handleBatch, ensures_bind]
      refine (ensures_true _ w₁).mono (fun _ _ _ => ?_) fun _ h => h
      exact .reported {} hproblem (hbatch ▸ hanswer) (by rw [hbatch]; rfl)
    · have hbatch := batch_of_fetch hanswer
      rw [handleBatch, ensures_bind]
      refine (dispatchBatch_fetched d (m :: ms) w₁).mono (fun r _ hfetched => ?_) fun _ h => h
      exact .reported r hproblem (hbatch ▸ hanswer) (hbatch ▸ hfetched)

/-- A cycle that reports no cancelled row has reached its whole batch. -/
theorem reached_of_uncancelled {w : W} {r : DispatchReport}
    (hrun : (d.dispatchOnce.run w).1 = .ok (.ok r)) (hcancelled : r.cancelled = 0) :
    d.reached w = d.batch w ∧ r.fetched = (d.batch w).length := by
  -- a failure would have been another answer
  cases (dispatchOnce_answered d w).answered hrun with
  | reported _ _ _ hfetched =>
    refine ⟨?_, hfetched⟩
    rw [reached_of_answer hrun, reachedRows, hfetched, hcancelled, Nat.sub_zero, List.take_length]

end Dispatcher

end EventOutbox
