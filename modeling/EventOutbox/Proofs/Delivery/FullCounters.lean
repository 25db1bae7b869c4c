import EventOutbox.Proofs.Delivery.RowByRow

/-!
# Full counters

The failed attempts of a row are counted up to a greatest number, and a cycle that has to count one
more ends early.  Where the publisher always answers, this is the only way for a cycle to end early.
It takes a full counter, which no row of the batch has as long as attempts are limited, and a
failure of that row.

## Main statements

- `Dispatcher.Course.advances`: where the way through the first rows of a batch leads.
- `Dispatcher.FailsAt.endsEarly`: the end at a row that fails while its counter is full.
- `Dispatcher.dispatchOnce_endsEarly`: when a cycle ends early, and what it leaves then.
-/

namespace EventOutbox

variable {W κ : Type} [EventCatalog κ]

/-! ## §1 Counters -/

/-- No other failed attempt of the row can be counted. -/
def Message.Full (m : Message) : Prop :=
  m.retryCount = 4294967295

/-- The counter is full when one more does not fit into thirty-two bits. -/
theorem Message.full_iff {m : Message} : m.Full ↔ ¬ m.retryCount.toNat + 1 < UInt32.size := by
  have hlt : m.retryCount.toNat < UInt32.size := m.retryCount.toNat_lt
  have hmost : (4294967295 : UInt32).toNat + 1 = UInt32.size := rfl
  rw [Full, ← UInt32.toNat_inj]
  omega

/-- A row with attempts left has room in its counter. -/
theorem Message.not_full_of_limit {m : Message} {most : UInt32}
    (h : m.attemptsExhausted (some most) = false) : ¬ m.Full := by
  -- the limit is itself a number of thirty-two bits, and the row stands below it
  have hlt : m.retryCount.toNat < most.toNat := by
    rw [attemptsExhausted, decide_eq_false_iff_not, UInt32.le_iff_toNat_le] at h
    omega
  have hmost : most.toNat < UInt32.size := most.toNat_lt
  rw [full_iff]
  omega

/-! ## §2 Outboxes -/

/-- The outbox rows are the same. -/
structure Store.SameOutbox (s s' : Store) : Prop where
  outbox : s'.outbox = s.outbox
  nextSeq : s'.nextSeq = s.nextSeq

/-- The store without the entity rows, which publishers may write. -/
def Store.outboxOnly (s : Store) : Store :=
  { s with entities := {} }

namespace Store

variable {s s₁ s' : Store} {m m' : Message}

theorem SameOutbox.refl (s : Store) : s.SameOutbox s := ⟨rfl, rfl⟩

theorem SameOutbox.trans (h : s.SameOutbox s₁) (h' : s₁.SameOutbox s') : s.SameOutbox s' :=
  ⟨h'.outbox.trans h.outbox, h'.nextSeq.trans h.nextSeq⟩

theorem SameRows.sameOutbox (h : s.SameRows s') : s.SameOutbox s' :=
  ⟨h.outbox, h.nextSeq⟩

theorem Stored.sameOutbox (stored : s.Stored m) (h : s.SameOutbox s') : s'.Stored m :=
  stored.congr h.outbox h.nextSeq

theorem SameOutbox.outboxOnly (h : s.SameOutbox s') : s.outboxOnly.SameRows s'.outboxOnly :=
  ⟨rfl, h.outbox, h.nextSeq⟩

theorem Replaces.outboxOnly (h : Replaces m m' s s') :
    Replaces m m' s.outboxOnly s'.outboxOnly :=
  ⟨rfl, h.outbox, h.nextSeq⟩

end Store

namespace Dispatcher

variable {d : Dispatcher W κ} {cell : Cell W Store}

/-- The dispatcher delivers the rows of a store.  What it calls besides the store always answers and
writes no outbox rows. -/
structure RunsOn (cell : Cell W Store) (d : Dispatcher W κ) : Prop where
  fetch : ∀ limit maxAttempts,
    (d.outbox.fetch limit maxAttempts).ActsAs cell (Store.fetch limit maxAttempts)
  markProcessed : ∀ id at_,
    (d.outbox.markProcessed id at_).ActsAs cell (Store.markProcessed id at_)
  recordFailure : ∀ id error,
    (d.outbox.recordFailure id error).ActsAs cell (Store.recordFailure id error)
  publish : ∀ e w, ∃ answer w', (d.publish e).run w = (.ok answer, w') ∧
    (cell.get w).SameOutbox (cell.get w')
  setPhase : ∀ p w, ∃ w', (d.setPhase p).run w = (.ok (), w') ∧ cell.get w' = cell.get w

/-- The publisher answers in one way only, so the run at hand is the one that is known to write
nothing. -/
theorem RunsOn.sameOutbox_of_publish (runs : d.RunsOn cell) {e : Event κ} {w w' : W}
    {answer : Except Failure Unit} (h : (d.publish e).run w = (.ok answer, w')) :
    (cell.get w).SameOutbox (cell.get w') := by
  obtain ⟨_, _, hrun, hsame⟩ := runs.publish e w
  rw [h] at hrun
  cases hrun
  exact hsame

/-- To write a phase is to leave the store as it is. -/
theorem RunsOn.get_of_setPhase (runs : d.RunsOn cell) {p : Phase} {w w' : W}
    (h : (d.setPhase p).run w = (.ok (), w')) : cell.get w' = cell.get w := by
  obtain ⟨_, hrun, hget⟩ := runs.setPhase p w
  rw [h] at hrun
  cases hrun
  exact hget

/-! ## §3 Failures of single rows -/

/-- A row fails whose attempt begins in a world: the failure that is met, and the world in which it
is to be recorded. -/
inductive Fails (d : Dispatcher W κ) (m : Message) (u : W) : Failure → W → Prop where
  | unreadable {cause} (decode : d.registry.decode m.eventType m.payload = .error cause) :
      Fails d m u cause.failure u
  | refused {event f u₁} (decode : d.registry.decode m.eventType m.payload = .ok event)
      (publish : (d.publish event).run u = (.ok (.error f), u₁)) : Fails d m u f u₁
  | unmarked {event u₁ f u₂} (decode : d.registry.decode m.eventType m.payload = .ok event)
      (publish : (d.publish event).run u = (.ok (.ok ()), u₁))
      (mark : (d.outbox.markProcessed m.id (d.clock u₁)).run u₁ = (.ok (.error f), u₂)) :
      Fails d m u f u₂

/-- A failure that is recorded makes an attempt. -/
theorem Fails.attempt {m : Message} {u u₁ u' : W} {f : Failure} {answer : Except Failure Unit}
    (h : d.Fails m u f u₁)
    (recorded : (d.outbox.recordFailure m.id f.text).run u₁ = (.ok answer, u')) :
    ∃ v, d.Attempt m u v u' := by
  cases h with
  | unreadable decode => exact ⟨_, .unreadable decode recorded⟩
  | refused decode publish => exact ⟨_, .refused decode publish recorded⟩
  | unmarked decode publish mark => exact ⟨_, .unmarked decode publish mark recorded⟩

/-- A row that fails is left to the recording of its failure. -/
theorem Fails.run {m : Message} {u u₁ : W} {f : Failure} (h : d.Fails m u f u₁) :
    ∃ outcome, (d.dispatchRow m).run u = (d.recordFailure m f outcome).run u₁ := by
  rw [dispatchRow]
  cases h with
  | unreadable decode =>
    rw [decode]
    exact ⟨_, rfl⟩
  | refused decode publish =>
    rw [decode]
    exact ⟨_, Action.run_bind_of_ok publish⟩
  | unmarked decode publish mark =>
    rw [decode]
    -- the event was published, and only the mark of the row failed
    refine ⟨.failed, ?_⟩
    simp only [Action.run_bind_of_ok publish, Action.run_bind_of_ok (Action.run_ask _ _),
      Action.run_bind_of_ok mark]

/-- An attempt is what the delivery of its row does, with the outcome of its verdict. -/
theorem Attempt.run {m : Message} {u u' : W} {v : Verdict} (h : d.Attempt m u v u') :
    (d.dispatchRow m).run u = (.ok v.outcome, u') := by
  rw [dispatchRow]
  cases h with
  | unreadable decode recorded =>
    rw [decode]
    exact Action.run_bind_of_ok recorded
  | refused decode publish recorded =>
    rw [decode]
    exact (Action.run_bind_of_ok publish).trans (Action.run_bind_of_ok recorded)
  | unmarked decode publish mark recorded =>
    simp only [decode, Action.run_bind_of_ok publish, Action.run_bind_of_ok (Action.run_ask _ _),
      Action.run_bind_of_ok mark]
    exact Action.run_bind_of_ok recorded
  | published decode publish mark =>
    simp only [decode, Action.run_bind_of_ok publish, Action.run_bind_of_ok (Action.run_ask _ _),
      Action.run_bind_of_ok mark]
    rfl

/-! ## §4 Failures in a store -/

/-- Nothing that happens before a failure is recorded writes an outbox row. -/
theorem Fails.sameOutbox (runs : d.RunsOn cell) {m : Message} {u u₁ : W} {f : Failure}
    (stored : (cell.get u).Stored m) (h : d.Fails m u f u₁) :
    (cell.get u).SameOutbox (cell.get u₁) := by
  cases h with
  | unreadable => exact .refl _
  | refused _ publish => exact runs.sameOutbox_of_publish publish
  | unmarked _ publish mark =>
    have hsame := runs.sameOutbox_of_publish publish
    have hmark := (runs.markProcessed _ _).run_ok mark
    exact hsame.trans (Store.sameRows_of_markProcessed (stored.sameOutbox hsame) hmark).sameOutbox

/-- A failure whose recording is answered is counted, so there was room for it. -/
theorem Fails.counted (runs : d.RunsOn cell) {m : Message} {u u₁ u' : W} {f : Failure}
    {answer : Except Failure Unit} (stored : (cell.get u).Stored m) (pending : m.isPending = true)
    (h : d.Fails m u f u₁)
    (recorded : (d.outbox.recordFailure m.id f.text).run u₁ = (.ok answer, u')) :
    (Verdict.failed f).Leaves m (m.failed f.text) ∧ ¬ m.Full ∧
      Store.Replaces m (m.failed f.text) (cell.get u).outboxOnly (cell.get u').outboxOnly := by
  have hsame := h.sameOutbox runs stored
  -- the store answers only where there is room
  obtain ⟨room, hreplaces⟩ := Store.replaces_of_recordFailure (stored.sameOutbox hsame)
    ((runs.recordFailure m.id f.text).run_ok recorded)
  exact ⟨⟨rfl, pending, Message.retryCount_failed room f.text⟩,
    fun full => Message.full_iff.mp full room, hreplaces.outboxOnly.after_same hsame.outboxOnly⟩

/-- The row of an attempt is replaced, as the verdict says. -/
theorem Attempt.replaces_row (runs : d.RunsOn cell) {m : Message} {u u' : W} {v : Verdict}
    (stored : (cell.get u).Stored m) (pending : m.isPending = true) (h : d.Attempt m u v u') :
    ∃ m', v.Leaves m m' ∧ (v.outcome ≠ .published → ¬ m.Full) ∧
      Store.Replaces m m' (cell.get u).outboxOnly (cell.get u').outboxOnly := by
  cases h with
  -- the three ways to fail differ in what was called before the failure was recorded
  | unreadable decode recorded =>
    obtain ⟨hleaves, hroom, hreplaces⟩ :=
      Fails.counted runs stored pending (.unreadable decode) recorded
    exact ⟨_, hleaves, fun _ => hroom, hreplaces⟩
  | refused decode publish recorded =>
    obtain ⟨hleaves, hroom, hreplaces⟩ :=
      Fails.counted runs stored pending (.refused decode publish) recorded
    exact ⟨_, hleaves, fun _ => hroom, hreplaces⟩
  | unmarked decode publish mark recorded =>
    obtain ⟨hleaves, hroom, hreplaces⟩ :=
      Fails.counted runs stored pending (.unmarked decode publish mark) recorded
    exact ⟨_, hleaves, fun _ => hroom, hreplaces⟩
  | published _ publish mark =>
    have hsame := runs.sameOutbox_of_publish publish
    have hmark := (runs.markProcessed _ _).run_ok mark
    have hreplaces := Store.replaces_of_markProcessed (stored.sameOutbox hsame) hmark
    exact ⟨_, if_pos pending, fun hnot => absurd rfl hnot,
      hreplaces.outboxOnly.after_same hsame.outboxOnly⟩

/-- A stored row is published, or it fails. -/
theorem RunsOn.published_or_fails (runs : d.RunsOn cell) {m : Message} {u : W}
    (stored : (cell.get u).Stored m) :
    (∃ v u', d.Attempt m u v u') ∨ ∃ f u₁, d.Fails m u f u₁ := by
  cases hdecode : d.registry.decode m.eventType m.payload with
  | error cause => exact .inr ⟨_, _, .unreadable hdecode⟩
  | ok event =>
    obtain ⟨answer, u₁, hpublish, hsame⟩ := runs.publish event u
    rcases answer with f | _
    · exact .inr ⟨_, _, .refused hdecode hpublish⟩
    · -- the mark meets an armed fault, or the row is there to be marked
      have hstored := stored.sameOutbox hsame
      have hacts := (runs.markProcessed m.id (d.clock u₁) u₁).1
      rw [Store.markProcessed_run hstored.sound hstored.mem] at hacts
      cases hfault : (cell.get u₁).faults.markProcessed with
      | some f =>
        rw [hfault] at hacts
        exact .inr ⟨_, _, .unmarked hdecode hpublish (Prod.ext hacts rfl)⟩
      | none =>
        rw [hfault] at hacts
        exact .inl ⟨_, _, .published hdecode hpublish (Prod.ext hacts rfl)⟩

/-- A stored row is attempted to the end, unless it fails while its counter is full. -/
theorem RunsOn.attempt_or_full (runs : d.RunsOn cell) {m : Message} {u : W}
    (stored : (cell.get u).Stored m) :
    (∃ v u', d.Attempt m u v u') ∨ m.Full ∧ ∃ f u₁, d.Fails m u f u₁ := by
  rcases runs.published_or_fails stored with hattempt | ⟨f, u₁, hfails⟩
  · exact .inl hattempt
  · by_cases full : m.Full
    · exact .inr ⟨full, f, u₁, hfails⟩
    · -- there is room, so the recording of the failure is answered
      have hstored := stored.sameOutbox (hfails.sameOutbox runs stored)
      have hacts := (runs.recordFailure m.id f.text u₁).1
      have room := not_not.mp fun hroom => full (Message.full_iff.mpr hroom)
      rw [Store.recordFailure_run hstored.sound hstored.mem _ room] at hacts
      obtain ⟨v, hattempt⟩ := hfails.attempt (Prod.ext hacts rfl)
      exact .inl ⟨v, _, hattempt⟩

/-- The failure of a row whose counter is full ends the run, and no outbox row is written. -/
theorem Fails.run_full (runs : d.RunsOn cell) {m : Message} {u u₁ : W} {f : Failure}
    (stored : (cell.get u).Stored m) (full : m.Full) (h : d.Fails m u f u₁) :
    ∃ u', (d.dispatchRow m).run u = (.error .retriesFull, u') ∧
      (cell.get u).SameOutbox (cell.get u') := by
  have hsame := h.sameOutbox runs stored
  have hstored := stored.sameOutbox hsame
  obtain ⟨hanswer, hworld⟩ := runs.recordFailure m.id f.text u₁
  rw [Store.recordFailure_full hstored.sound hstored.mem _ (Message.full_iff.mp full)]
    at hanswer hworld
  obtain ⟨outcome, hrun⟩ := h.run
  refine ⟨((d.outbox.recordFailure m.id f.text).run u₁).2, ?_, ?_⟩
  · rw [hrun]
    exact Action.run_bind_of_error (Prod.ext hanswer rfl)
  · rw [hworld]
    exact hsame

/-! ## §5 Courses -/

/-- A course is the way that the dispatcher takes through the rows, whatever was counted before. -/
theorem Course.run {u u' : W} {ms : List Message} {verdicts : List Verdict}
    (h : d.Course u ms verdicts u') (r : DispatchReport) :
    ∃ r', (d.dispatchRows r ms).run u = (.ok r', u') := by
  induction h generalizing r with
  | finished u => exact ⟨r, rfl⟩
  -- the rows that are left out are counted all at once, which ends the loop
  | stopped m ms stop =>
    rw [dispatchRows, Action.run_bind_of_ok (Action.run_ask _ _), stop]
    exact ⟨_, rfl⟩
  | @row u m ms v u₁ verdicts u' go attempt rest ih =>
    rw [dispatchRows, Action.run_bind_of_ok (Action.run_ask _ _), go, if_neg Bool.false_ne_true,
      Action.run_bind_of_ok attempt.run]
    exact ih _

/-- After a course through the first rows of a batch, the run goes on with the other ones. -/
theorem Course.run_append {u u' : W} {ms : List Message} {verdicts : List Verdict}
    (h : d.Course u ms verdicts u') (all : verdicts.length = ms.length) (rest : List Message)
    (r : DispatchReport) :
    ∃ r', (d.dispatchRows r (ms ++ rest)).run u = (d.dispatchRows r' rest).run u' := by
  induction h generalizing r with
  | finished u => exact ⟨r, rfl⟩
  | stopped m ms stop => cases all
  -- every row has a verdict, so the dispatcher was not asked to stop on the way
  | @row u m ms v u₁ verdicts u' go attempt _ ih =>
    rw [List.cons_append, dispatchRows, Action.run_bind_of_ok (Action.run_ask _ _), go,
      if_neg Bool.false_ne_true, Action.run_bind_of_ok attempt.run]
    exact ih (Nat.succ.inj all) _

/-- What waits in a store waits in its outbox. -/
theorem Waiting.outboxOnly {s : Store} {ms : List Message} (h : Waiting s ms) :
    Waiting s.outboxOnly ms :=
  ⟨h.sound.congr rfl rfl, h.stored, h.pending, h.distinct⟩

/-- The first waiting row is stored, entity rows or not. -/
theorem Waiting.first_stored {s : Store} {m : Message} {ms : List Message}
    (h : Waiting s.outboxOnly (m :: ms)) : s.Stored m :=
  Store.Stored.congr ⟨h.sound, h.stored m List.mem_cons_self⟩ rfl rfl

/-- Where a course through the first rows of a batch leads: they are as their verdicts leave them,
those that failed had room in their counters, and the other rows of the batch still wait. -/
structure Advanced (ms : List Message) (verdicts : List Verdict) (rest : List Message)
    (s s' : Store) : Prop where
  rows : RowsAfter (ms ++ rest) verdicts s s'
  waiting : Waiting s' rest
  room : ∀ p ∈ ms.zip verdicts, p.2.outcome ≠ .published → ¬ p.1.Full

/-- A course through the first rows of a batch replaces them, one after the other. -/
theorem Course.advances (runs : d.RunsOn cell) {u u' : W} {ms rest : List Message}
    {verdicts : List Verdict} (course : d.Course u ms verdicts u')
    (all : verdicts.length = ms.length) (waiting : Waiting (cell.get u).outboxOnly (ms ++ rest)) :
    Advanced ms verdicts rest (cell.get u).outboxOnly (cell.get u').outboxOnly := by
  -- on the course: each attempt replaces the first waiting row, and the others wait on
  induction course with
  | finished u => exact ⟨.none rest _, waiting, by simp⟩
  | stopped m ms stop => cases all
  | @row u m ms v u₁ verdicts u' go attempt _ ih =>
    obtain ⟨m', hleaves, hroom, hreplaces⟩ :=
      attempt.replaces_row runs waiting.first_stored (waiting.pending m List.mem_cons_self)
    have hrest := ih (Nat.succ.inj all) (waiting.after hleaves.sameEvent.id hreplaces)
    constructor
    case rows => exact .cons waiting hleaves hreplaces hrest.rows
    case waiting => exact hrest.waiting
    case room => exact List.forall_mem_cons.mpr ⟨hroom, hrest.room⟩

/-- The way through a batch comes to a row that fails, after the attempts on the rows before it came
to their verdicts. -/
structure ComesTo (d : Dispatcher W κ) (u : W) (before : List Message) (verdicts : List Verdict)
    (m : Message) (u' : W) : Prop where
  course : d.Course u before verdicts u'
  all : verdicts.length = before.length
  go : d.cancelled u' = false
  fails : ∃ f u₁, d.Fails m u' f u₁

/-- The way through waiting rows has an end, unless it comes to a row that fails while its counter
is full. -/
theorem RunsOn.course_or_full (runs : d.RunsOn cell) {u : W} {ms : List Message}
    (waiting : Waiting (cell.get u).outboxOnly ms) :
    (∃ verdicts u', d.Course u ms verdicts u') ∨
      ∃ before verdicts m after u', ms = before ++ m :: after ∧
        d.ComesTo u before verdicts m u' ∧ m.Full := by
  -- on the rows: what an attempt leaves of its row does not disturb the rows behind it
  induction ms generalizing u with
  | nil => exact .inl ⟨[], u, .finished u⟩
  | cons m ms ih =>
    cases go : d.cancelled u with
    | true => exact .inl ⟨[], u, .stopped m ms go⟩
    | false =>
      rcases runs.attempt_or_full waiting.first_stored with ⟨v, u₁, attempt⟩ | ⟨full, fails⟩
      · obtain ⟨m', hleaves, -, hreplaces⟩ :=
          attempt.replaces_row runs waiting.first_stored (waiting.pending m List.mem_cons_self)
        rcases ih (waiting.after hleaves.sameEvent.id hreplaces) with
          ⟨verdicts, u', course⟩ | ⟨before, verdicts, n, after, u', rfl, comes, full⟩
        · exact .inl ⟨v :: verdicts, u', .row go attempt course⟩
        · -- the row comes later, behind the one that was attempted here
          have hall : (v :: verdicts).length = (m :: before).length := by
            rw [List.length_cons, List.length_cons, comes.all]
          exact .inr ⟨m :: before, v :: verdicts, n, after, u', rfl,
            ⟨.row go attempt comes.course, hall, comes.go, comes.fails⟩, full⟩
      · exact .inr ⟨[], [], m, ms, u, rfl, ⟨.finished u, rfl, go, fails⟩, full⟩

/-! ## §6 Cycles -/

/-- The cycle has fetched its batch, and the way through it begins in a world. -/
inductive Begins (d : Dispatcher W κ) (w : W) (batch : List Message) (u : W) : Prop where
  | mk {w₁ w₂} (fetch : d.fetchBatch.run w = (.ok (.ok batch), w₁))
      (fetched : (d.setPhase .batchFetched).run w₁ = (.ok (), w₂))
      (publishing : (d.setPhase .publishing).run w₂ = (.ok (), u))

/-- What a cycle does after the way through its batch. -/
def finish (d : Dispatcher W κ) (r : DispatchReport) :
    Action W (Except Failure DispatchReport) := do
  d.setPhase .batchComplete
  d.setPhase .idle
  pure (.ok r)

/-- A cycle with a batch is the way through its rows, with what comes behind it. -/
theorem Begins.run (valid : d.config.problem? = none) {w u : W} {batch : List Message}
    (h : d.Begins w batch u) (hne : batch ≠ []) :
    d.dispatchOnce.run w =
      (d.dispatchRows { fetched := batch.length } batch >>= d.finish).run u := by
  obtain ⟨fetch, fetched, publishing⟩ := h
  cases batch with
  | nil => exact absurd rfl hne
  | cons m ms =>
    rw [dispatchOnce_eq valid, Action.run_bind_of_ok fetch, handleBatch, dispatchBatch]
    simp only [Action.bind_assoc]
    rw [Action.run_bind_of_ok fetched, Action.run_bind_of_ok publishing]
    rfl

/-- A fetch meets the armed fault, or takes the oldest eligible rows and leaves the store as it is.
-/
theorem RunsOn.fetchBatch_run (runs : d.RunsOn cell) (w : W) :
    (∃ f w₁, d.fetchBatch.run w = (.ok (.error f), w₁)) ∨
      ∃ w₁, cell.get w₁ = cell.get w ∧ d.fetchBatch.run w = (.ok (.ok
        (((cell.get w).eligible d.config.maxAttempts).take d.config.batchSize.toNat)), w₁) := by
  obtain ⟨w₀, hpolling, hget⟩ := runs.setPhase .polling w
  rw [fetchBatch, Action.run_bind_of_ok hpolling]
  obtain ⟨hanswer, hworld⟩ := runs.fetch d.config.batchSize d.config.maxAttempts w₀
  rw [Store.fetch_run, hget] at hanswer hworld
  cases hfault : (cell.get w).faults.fetch with
  | some f =>
    rw [hfault] at hanswer
    exact .inl ⟨f, _, Prod.ext hanswer rfl⟩
  | none =>
    rw [hfault] at hanswer hworld
    exact .inr ⟨_, hworld, Prod.ext hanswer rfl⟩

/-- The way through the batch begins with the store as the cycle found it. -/
theorem Begins.fetched (runs : d.RunsOn cell) {w u : W} {batch : List Message}
    (h : d.Begins w batch u) : cell.get u = cell.get w ∧
      batch = ((cell.get w).eligible d.config.maxAttempts).take d.config.batchSize.toNat := by
  obtain ⟨fetch, fetched, publishing⟩ := h
  have hphases := (runs.get_of_setPhase publishing).trans (runs.get_of_setPhase fetched)
  -- there is one fetch from `w`, and it did not meet a fault
  rcases runs.fetchBatch_run w with ⟨f, w₁, hrun⟩ | ⟨w₁, hget, hrun⟩
  · rw [fetch] at hrun
    cases hrun
  · rw [fetch] at hrun
    cases hrun
    exact ⟨hphases.trans hget, rfl⟩

/-- When the way through a batch begins, all of its rows wait. -/
theorem Begins.waiting (runs : d.RunsOn cell) {w u : W} {batch : List Message}
    (hs : (cell.get w).Sound) (h : d.Begins w batch u) :
    Waiting (cell.get u).outboxOnly batch := by
  obtain ⟨hget, rfl⟩ := h.fetched runs
  rw [hget]
  exact (waiting_of_fetched hs _ _).outboxOnly

/-- The cycle attempts a row of its batch and fails, after the rows before it came to their
verdicts. -/
def FailsAt (d : Dispatcher W κ) (w : W) (before : List Message) (verdicts : List Verdict)
    (m : Message) (after : List Message) : Prop :=
  ∃ u u', d.Begins w (before ++ m :: after) u ∧ d.ComesTo u before verdicts m u'

/-- What is left of the rows when the run ends at a row.  Of the rows before it, those that failed
had room in their counters; all of them are as their verdicts leave them.  The row itself and the
rows behind it are as they were. -/
structure EndsAt (before : List Message) (verdicts : List Verdict) (m : Message)
    (after : List Message) (s s' : Store) : Prop where
  all : verdicts.length = before.length
  first : ∀ p ∈ before.zip verdicts, p.2.outcome ≠ .published → ¬ p.1.Full
  rows : List.Forall₂ (fun row row' => row'.1 = row.1 ∧
    Verdict.Fate (before ++ m :: after) verdicts row.2 row'.2) s.outbox s'.outbox
  kept : ∀ n ∈ m :: after, n ∈ s'.messages

/-- A failure of a row whose counter is full ends the cycle early. -/
theorem FailsAt.endsEarly (runs : d.RunsOn cell) (valid : d.config.problem? = none) {w : W}
    (hs : (cell.get w).Sound) {before after : List Message} {verdicts : List Verdict} {m : Message}
    (h : d.FailsAt w before verdicts m after) (full : m.Full) :
    (d.dispatchOnce.run w).1 = .error .retriesFull ∧
      EndsAt before verdicts m after (cell.get w) (cell.get (d.dispatchOnce.run w).2) := by
  obtain ⟨u, u', begins, ⟨course, all, go, f, u₁, fails⟩⟩ := h
  have hadvanced := course.advances runs all (begins.waiting runs hs)
  -- the row still waits, as it was fetched
  obtain ⟨w', hrow, hsame⟩ := fails.run_full runs hadvanced.waiting.first_stored full
  obtain ⟨r, hcourse⟩ := course.run_append all (m :: after)
    { fetched := (before ++ m :: after).length }
  have hrows : (d.dispatchRows { fetched := (before ++ m :: after).length }
      (before ++ m :: after)).run u = (.error .retriesFull, w') := by
    rw [hcourse, dispatchRows, Action.run_bind_of_ok (Action.run_ask _ _), go,
      if_neg Bool.false_ne_true, Action.run_bind_of_error hrow]
  have hrun : d.dispatchOnce.run w = (.error .retriesFull, w') := by
    rw [begins.run valid (by simp), Action.run_bind_of_error hrows]
  rw [hrun]
  refine ⟨rfl, ?_⟩
  constructor
  case all => exact all
  case first => exact hadvanced.room
  case rows =>
    -- the entity rows and the end of the run leave the outbox as it is
    have hrows := hadvanced.rows.outbox
    rw [(begins.fetched runs).1] at hrows
    rw [hsame.outbox]
    exact hrows
  case kept =>
    intro n hn
    rw [Store.messages, hsame.outbox]
    exact hadvanced.waiting.stored n hn

/-- The dispatcher goes idle and gives the answer that it has. -/
theorem RunsOn.idle_run (runs : d.RunsOn cell) (answer : Except Failure DispatchReport) (u : W) :
    ∃ w', (d.setPhase .idle >>= fun _ => (pure answer : Action W _)).run u = (.ok answer, w') := by
  obtain ⟨w', hidle, -⟩ := runs.setPhase .idle u
  exact ⟨w', Action.run_bind_of_ok hidle⟩

/-- The two phases behind the rows always come to an end. -/
theorem RunsOn.finish_run (runs : d.RunsOn cell) (r : DispatchReport) (u : W) :
    ∃ w', (d.finish r).run u = (.ok (.ok r), w') := by
  obtain ⟨u', hcomplete, -⟩ := runs.setPhase .batchComplete u
  rw [finish, Action.run_bind_of_ok hcomplete]
  exact runs.idle_run (.ok r) u'

/-- The two phases between the fetch and the first row always come to an end. -/
theorem RunsOn.begins (runs : d.RunsOn cell) {w w₁ : W} {batch : List Message}
    (fetch : d.fetchBatch.run w = (.ok (.ok batch), w₁)) : ∃ u, d.Begins w batch u := by
  obtain ⟨w₂, fetched, -⟩ := runs.setPhase .batchFetched w₁
  obtain ⟨u, publishing, -⟩ := runs.setPhase .publishing w₂
  exact ⟨u, .mk fetch fetched publishing⟩

/-- A cycle answers, unless it fails at a row whose counter is full. -/
theorem RunsOn.answers_or_full (runs : d.RunsOn cell) (valid : d.config.problem? = none) {w : W}
    (hs : (cell.get w).Sound) :
    (∃ answer, (d.dispatchOnce.run w).1 = .ok answer) ∨
      ∃ before verdicts m after, d.FailsAt w before verdicts m after ∧ m.Full := by
  rcases runs.fetchBatch_run w with ⟨f, w₁, hfetch⟩ | ⟨w₁, -, hfetch⟩
  · -- the fetch met an armed fault, which is the answer
    left
    obtain ⟨w', hrun⟩ := runs.idle_run (.error f) w₁
    rw [dispatchOnce_eq valid, Action.run_bind_of_ok hfetch, handleBatch, hrun]
    exact ⟨_, rfl⟩
  · generalize ((cell.get w).eligible _).take _ = batch at hfetch
    cases batch with
    -- there is nothing to attempt, so no counter is looked at
    | nil =>
      left
      obtain ⟨w', hrun⟩ := runs.idle_run (.ok {}) w₁
      rw [dispatchOnce_eq valid, Action.run_bind_of_ok hfetch, handleBatch, hrun]
      exact ⟨_, rfl⟩
    | cons m ms =>
      obtain ⟨u, begins⟩ := runs.begins hfetch
      rcases runs.course_or_full (begins.waiting runs hs) with
        ⟨verdicts, u', course⟩ | ⟨before, verdicts, n, after, u', hsplit, comes, full⟩
      · left
        -- the way through the batch came to its end: its report is the answer
        obtain ⟨r, hrows⟩ := course.run { fetched := (m :: ms).length }
        obtain ⟨w', hrun⟩ := runs.finish_run r u'
        rw [begins.run valid (by simp), Action.run_bind_of_ok hrows, hrun]
        exact ⟨_, rfl⟩
      · right
        -- the row that ended the way stands in the batch that was fetched
        rw [hsplit] at begins
        exact ⟨before, verdicts, n, after, ⟨u, u', begins, comes⟩, full⟩

/-- No row of the batch has a full counter as long as attempts are limited. -/
theorem FailsAt.not_full_of_limit (runs : d.RunsOn cell) {w : W} {before after : List Message}
    {verdicts : List Verdict} {m : Message} (h : d.FailsAt w before verdicts m after)
    {most : UInt32} (limited : d.config.maxAttempts = some most) : ¬ m.Full := by
  obtain ⟨u, u', begins, -⟩ := h
  have hbatch := (begins.fetched runs).2
  have hmem : m ∈ ((cell.get w).eligible d.config.maxAttempts).take d.config.batchSize.toNat := by
    rw [← hbatch]
    simp
  have heligible := (Store.mem_eligible_iff.mp (List.mem_of_mem_take hmem)).2.2
  rw [limited] at heligible
  exact Message.not_full_of_limit heligible

/-- When a cycle ends early, and what it leaves then. -/
structure EndsEarly (cell : Cell W Store) (d : Dispatcher W κ) (w : W) : Prop where
  early_iff : (∃ e, (d.dispatchOnce.run w).1 = .error e) ↔ d.config.maxAttempts = none ∧
    ∃ before verdicts m after, d.FailsAt w before verdicts m after ∧ m.Full
  limited : ∀ most, d.config.maxAttempts = some most →
    ∃ answer, (d.dispatchOnce.run w).1 = .ok answer
  extent : ∀ e, (d.dispatchOnce.run w).1 = .error e → e = .retriesFull ∧
    ∃ before verdicts m after, d.FailsAt w before verdicts m after ∧ m.Full ∧
      EndsAt before verdicts m after (cell.get w) (cell.get (d.dispatchOnce.run w).2)

/-- Whatever the store went through before, whatever the dispatcher can read, whenever it is asked
to stop, and whatever faults are met: a cycle ends early exactly at a row that fails while its
counter is full. -/
theorem dispatchOnce_endsEarly {w : W} (runs : d.RunsOn cell)
    (reachable : (cell.get w).Reachable) (valid : d.config.problem? = none) :
    EndsEarly cell d w := by
  have hs := reachable.sound
  have hfull : ∀ {e}, (d.dispatchOnce.run w).1 = .error e →
      ∃ before verdicts m after, d.FailsAt w before verdicts m after ∧ m.Full := by
    intro e hearly
    rcases runs.answers_or_full valid hs with ⟨answer, hanswer⟩ | hfull
    · rw [hanswer] at hearly
      cases hearly
    · exact hfull
  constructor
  case early_iff =>
    constructor
    · rintro ⟨e, hearly⟩
      obtain ⟨before, verdicts, m, after, hfails, full⟩ := hfull hearly
      refine ⟨?_, before, verdicts, m, after, hfails, full⟩
      cases hlimit : d.config.maxAttempts with
      | none => rfl
      | some most => exact absurd full (hfails.not_full_of_limit runs hlimit)
    · rintro ⟨-, before, verdicts, m, after, hfails, full⟩
      exact ⟨_, (hfails.endsEarly runs valid hs full).1⟩
  case limited =>
    intro most hlimit
    rcases runs.answers_or_full valid hs with hanswer | ⟨_, _, _, _, hfails, full⟩
    · exact hanswer
    · exact absurd full (hfails.not_full_of_limit runs hlimit)
  case extent =>
    intro e hearly
    obtain ⟨before, verdicts, m, after, hfails, full⟩ := hfull hearly
    obtain ⟨hanswer, hends⟩ := hfails.endsEarly runs valid hs full
    rw [hearly] at hanswer
    cases hanswer
    exact ⟨rfl, before, verdicts, m, after, hfails, full, hends⟩

private def parcel (n : Nat) (retryCount : UInt32) : List Message :=
  (Message.ofEvent (Shop.created n) "Item" "7" (Uuid.ofNat 9) Shop.opening).toOption.toList.map
    fun m => { m with retryCount }

/-- Three rows, of which the second one has failed as often as can be counted. -/
private def parcels : ChangeSet where
  transactionId := Uuid.ofNat 9
  messages := parcel 1 0 ++ parcel 2 4294967295 ++ parcel 3 0

private def depot : Shop.Desk :=
  { Shop.desk with store := ((Store.commit parcels).run {}).2 }

/-- The dispatcher that publishes one event and none of the others. -/
private def carrier : Dispatcher Shop.Desk Shop.Kind where
  outbox := Store.outboxAccess Service.storeCell
  registry := .ofList [.itemCreated]
  publish _ := Action.step fun w =>
    (if w.rest = 0 then .ok () else .error (.plain .publishFailed "van broken down"),
      { w with rest := w.rest + 1 })
  config := {}
  setPhase _ := pure ()
  cancelled _ := false
  clock _ := Shop.opening

private theorem runsOn_carrier : carrier.RunsOn Service.storeCell where
  fetch := fun _ _ => Action.actsAs_focus _ _
  markProcessed := fun _ _ => Action.actsAs_focus _ _
  recordFailure := fun _ _ => Action.actsAs_focus _ _
  publish := fun _ _ => ⟨_, _, rfl, .refl _⟩
  setPhase := fun _ w => ⟨w, rfl, rfl⟩

private theorem fetchBatch_carrier :
    carrier.fetchBatch.run depot = (.ok (.ok depot.store.messages), depot) := by
  have hs : depot.store.Sound := (Store.Reachable.commit .empty parcels).sound
  have htimes : depot.store.InTime := by
    unfold Store.InTime
    decide +kernel
  have heligible : (depot.store.eligible none).take (20 : UInt32).toNat =
      depot.store.messages := by
    rw [Store.eligible_of_times hs htimes]
    decide +kernel
  have hfetch : (Store.fetch 20 none).run depot.store =
      (.ok (.ok depot.store.messages), depot.store) := by
    rw [← heligible]
    exact Store.fetch_run depot.store 20 none
  have hcell : carrier.fetchBatch.run depot =
      (((Store.fetch 20 none).run depot.store).1,
        Service.storeCell.set ((Store.fetch 20 none).run depot.store).2 depot) := rfl
  rw [hcell, hfetch]
  rfl

/-- The first parcel is delivered, the run ends at the second one, and the third one is not tried.
-/
theorem delivery_ends_at_full_counter :
    (carrier.dispatchOnce.run depot).1 = .error .retriesFull ∧
    (carrier.dispatchOnce.run depot).2.store.messages.map
      (fun m => (m.isPending, m.retryCount, m.lastError)) =
      [(false, 0, none), (true, 4294967295, none), (true, 0, none)] ∧
    EndsEarly Service.storeCell carrier depot := by
  have hrun : carrier.dispatchOnce.run depot =
      (carrier.handleBatch (.ok depot.store.messages)).run depot := by
    rw [dispatchOnce_eq (by decide), Action.run_bind_of_ok fetchBatch_carrier]
  refine ⟨?_, ?_, dispatchOnce_endsEarly runsOn_carrier (.commit .empty parcels) (by decide)⟩
  · rw [hrun]
    decide +kernel
  · rw [hrun]
    decide +kernel

end Dispatcher

end EventOutbox
