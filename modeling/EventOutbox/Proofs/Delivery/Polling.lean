import EventOutbox.Delivery.Polling
import EventOutbox.Proofs.Delivery.Cycle
import Mathlib.Logic.Function.Iterate

/-!
# The polling loop, lap by lap

The loop waits for a tick and runs a cycle, whatever this answers.  It goes on for as long as it
finds that nobody has asked it to stop, before the wait and after it.  A cycle in the midst of which
someone asks it to stop makes no calls for the rows behind the one that is being delivered.

## Main statements

- `Dispatcher.Polls.poll_laps`: the loop runs one cycle for each tick that is taken.
- `Dispatcher.Polls.cycle_of_stop`: what a cycle does that someone asks to stop.
- `Dispatcher.paced`: when the cycles start.
-/

namespace EventOutbox

variable {W κ : Type} [EventCatalog κ]

/-! ## §1 Laps -/

/-- The loop before a wait: the world, and the time at which the next tick is due. -/
structure Lap (W : Type) where
  due : Nat
  world : W

/-- The world when the wait is over. -/
def Lap.ticked (l : Lap W) (timer : Timer W) : W :=
  ((timer.waitUntil l.due).run l.world).2

namespace Dispatcher

/-- The time between two ticks, in nanoseconds. -/
def period (d : Dispatcher W κ) : Nat :=
  d.config.pollInterval.toNanos

/-- The loop after the cycle for a tick. -/
def nextLap (d : Dispatcher W κ) (timer : Timer W) (l : Lap W) : Lap W where
  due := timer.nextTick d.period l.due (timer.now (l.ticked timer))
  world := (d.dispatchOnce.run (l.ticked timer)).2

/-- The loop that begins at `w` after `n` cycles. -/
def lap (d : Dispatcher W κ) (timer : Timer W) (w : W) (n : Nat) : Lap W :=
  (d.nextLap timer)^[n] ⟨timer.firstTick (timer.now w), w⟩

/-- The loop is asked to stop neither before the wait nor after it. -/
def Taken (d : Dispatcher W κ) (timer : Timer W) (l : Lap W) : Prop :=
  d.cancelled l.world = false ∧ d.cancelled (l.ticked timer) = false

instance (d : Dispatcher W κ) (timer : Timer W) (l : Lap W) : Decidable (d.Taken timer l) :=
  inferInstanceAs (Decidable (_ ∧ _))

/-- The world in which the loop finds that it is asked to stop. -/
def haltedAt (d : Dispatcher W κ) (timer : Timer W) (l : Lap W) : W :=
  if d.cancelled l.world then l.world else l.ticked timer

variable {d : Dispatcher W κ} {timer : Timer W} {w : W} {l : Lap W}

/-- A lap more is a cycle more. -/
theorem lap_succ (d : Dispatcher W κ) (timer : Timer W) (w : W) (n : Nat) :
    d.lap timer w (n + 1) = d.nextLap timer (d.lap timer w n) :=
  Function.iterate_succ_apply' _ _ _

/-! ## §2 The loop -/

/-- What the loop asks of its surroundings: waits end, phases are shown, and no cycle for a tick
that is taken ends early. -/
structure Polls (d : Dispatcher W κ) (timer : Timer W) (phase : W → Phase) (w : W) : Prop where
  waits : ∀ due v, ((timer.waitUntil due).run v).1 = .ok ()
  shows : ∀ p v, ((d.setPhase p).run v).1 = .ok () ∧ phase ((d.setPhase p).run v).2 = p
  /-- Showing a phase does not take back that the loop is asked to stop. -/
  stays : ∀ p v, d.cancelled v = true → d.cancelled ((d.setPhase p).run v).2 = true
  answers : ∀ n, (∀ j ≤ n, d.Taken timer (d.lap timer w j)) →
    ∃ answer, (d.dispatchOnce.run ((d.lap timer w n).ticked timer)).1 = .ok answer

variable {phase : W → Phase}

/-- Waiting for a tick comes to an end. -/
theorem Polls.run_wait (h : d.Polls timer phase w) (l : Lap W) :
    (timer.waitUntil l.due).run l.world = (.ok (), l.ticked timer) :=
  Prod.ext (h.waits _ _) rfl

/-- Showing a phase comes to an end. -/
theorem Polls.run_setPhase (h : d.Polls timer phase w) (p : Phase) (v : W) :
    (d.setPhase p).run v = (.ok (), ((d.setPhase p).run v).2) :=
  Prod.ext (h.shows p v).1 rfl

/-- The loop that is asked to stop shows that it is idle and ends well. -/
theorem Polls.run_stop (h : d.Polls timer phase w) (v : W) :
    d.stop.run v = (.ok (some (.ok ())), ((d.setPhase .idle).run v).2) := by
  rw [stop, Action.run_bind_of_ok (h.run_setPhase .idle v), Action.run_pure]

/-- A tick that is taken starts a cycle, and the loop goes on whatever the cycle answers. -/
theorem Polls.poll_of_taken (h : d.Polls timer phase w) (htaken : d.Taken timer l)
    {answer : Except Failure DispatchReport}
    (hcycle : (d.dispatchOnce.run (l.ticked timer)).1 = .ok answer) (cycles : Nat) :
    (d.poll timer (cycles + 1) l.due).run l.world =
      (d.poll timer cycles (d.nextLap timer l).due).run (d.nextLap timer l).world := by
  have hrun : d.dispatchOnce.run (l.ticked timer) = (.ok answer, (d.nextLap timer l).world) :=
    Prod.ext hcycle rfl
  -- not cancelled before the wait, a wait, not cancelled after it, a cycle
  rw [poll, Action.run_bind_of_ok (Action.run_ask _ _), htaken.1, if_neg Bool.false_ne_true,
    Action.run_bind_of_ok (h.run_wait l), Action.run_bind_of_ok (Action.run_ask _ _), htaken.2,
    if_neg Bool.false_ne_true, Action.run_bind_of_ok (Action.run_ask _ _),
    Action.run_bind_of_ok hrun]
  rfl

/-- The loop stops at a tick that is not taken. -/
theorem Polls.poll_of_untaken (h : d.Polls timer phase w) (hstop : ¬ d.Taken timer l)
    (cycles : Nat) : (d.poll timer (cycles + 1) l.due).run l.world =
      (.ok (some (.ok ())), ((d.setPhase .idle).run (d.haltedAt timer l)).2) := by
  rw [poll, Action.run_bind_of_ok (Action.run_ask _ _)]
  cases hbefore : d.cancelled l.world with
  | true => rw [if_pos rfl, haltedAt, hbefore, if_pos rfl, h.run_stop]
  -- the request came before the wait, or while the loop was waiting
  | false =>
    have hafter : d.cancelled (l.ticked timer) = true := by
      by_contra hnot
      exact hstop ⟨hbefore, Bool.eq_false_iff.mpr hnot⟩
    rw [if_neg Bool.false_ne_true, Action.run_bind_of_ok (h.run_wait l),
      Action.run_bind_of_ok (Action.run_ask _ _), hafter, if_pos rfl, haltedAt, hbefore,
      if_neg Bool.false_ne_true, h.run_stop]

/-- The loop runs one cycle for each tick that is taken. -/
theorem Polls.poll_laps (h : d.Polls timer phase w) {n : Nat}
    (htaken : ∀ j < n, d.Taken timer (d.lap timer w j)) (cycles : Nat) :
    (d.poll timer (n + cycles) (timer.firstTick (timer.now w))).run w =
      (d.poll timer cycles (d.lap timer w n).due).run (d.lap timer w n).world := by
  -- on the number of laps: the last of them is taken, and those before it by the induction
  induction n generalizing cycles with
  | zero =>
    rw [Nat.zero_add]
    rfl
  | succ n ih =>
    have hbefore : ∀ j < n, d.Taken timer (d.lap timer w j) :=
      fun j hj => htaken j (Nat.lt_succ_of_lt hj)
    obtain ⟨answer, hcycle⟩ := h.answers n fun j hj => htaken j (Nat.lt_succ_of_le hj)
    rw [Nat.add_right_comm, Nat.add_assoc, ih hbefore,
      h.poll_of_taken (htaken n n.lt_succ_self) hcycle, lap_succ]

/-- The loop of a valid configuration begins with the first tick. -/
theorem run_of_valid (valid : d.config.problem? = none) (cycles : Nat) :
    (d.run timer cycles).run w = (d.poll timer cycles (timer.firstTick (timer.now w))).run w := by
  simp only [run, valid]
  rfl

/-- A refused configuration ends the loop before anything happens. -/
theorem run_of_problem {p : DispatcherConfigProblem} (hproblem : d.config.problem? = some p)
    (timer : Timer W) (cycles : Nat) (w : W) :
    (d.run timer cycles).run w = (.ok (some (.error p.failure)), w) := by
  simp only [run, hproblem, Action.run_pure]

/-! ## §3 Cycles that are asked to stop -/

/-- The world after the given rows were delivered, one after the other. -/
def delivered (d : Dispatcher W κ) (rows : List Message) (v : W) : W :=
  rows.foldl (fun u m => ((d.dispatchRow m).run u).2) v

/-- The world of a cycle whose batch is fetched and is about to be delivered. -/
def opened (d : Dispatcher W κ) (v : W) : W :=
  ((d.setPhase .publishing).run ((d.setPhase .batchFetched).run (d.fetchBatch.run v).2).2).2

/-- The world in the midst of a cycle, when the given rows are delivered. -/
def amid (d : Dispatcher W κ) (v : W) (visited : List Message) : W :=
  d.delivered visited (d.opened v)

/-- The world of a cycle that delivers no more rows, when it is over. -/
def closed (d : Dispatcher W κ) (u : W) : W :=
  ((d.setPhase .idle).run ((d.setPhase .batchComplete).run u).2).2

/-- The dispatcher is asked to stop in the midst of the cycle that starts at `v`: while the last of
the visited rows is delivered, or while the batch is fetched if there is none. -/
structure StopsAt (d : Dispatcher W κ) (v : W) (visited rest : List Message) : Prop where
  batch : d.batch v = visited ++ rest
  nonempty : d.batch v ≠ []
  before : ∀ earlier, earlier <+: visited → earlier ≠ visited →
    d.cancelled (d.amid v earlier) = false
  stop : d.cancelled (d.amid v visited) = true

/-- The rest of a batch is not delivered. -/
theorem dispatchRows_of_stop {r r' : DispatchReport} {visited rest : List Message} {u u' : W}
    (hrun : (d.dispatchRows r (visited ++ rest)).run u = (.ok r', u'))
    (before : ∀ earlier, earlier <+: visited → earlier ≠ visited →
      d.cancelled (d.delivered earlier u) = false)
    (stop : d.cancelled (d.delivered visited u) = true) : u' = d.delivered visited u := by
  -- on the visited rows, with the request seen behind the last of them
  induction visited generalizing r u with
  | nil =>
    -- no row is left, or the loop asks before the next one and is told to stop
    cases rest with
    | nil =>
      rw [List.append_nil, dispatchRows, Action.run_pure] at hrun
      exact (Prod.ext_iff.mp hrun).2.symm
    | cons m rest =>
      have hnow : d.cancelled u = true := stop
      rw [List.nil_append, dispatchRows, Action.run_bind_of_ok (Action.run_ask _ _), hnow,
        if_pos rfl, Action.run_pure] at hrun
      exact (Prod.ext_iff.mp hrun).2.symm
  | cons m visited ih =>
    have hfirst : d.cancelled u = false := before [] List.nil_prefix (List.cons_ne_nil _ _).symm
    rw [List.cons_append, dispatchRows, Action.run_bind_of_ok (Action.run_ask _ _), hfirst,
      if_neg Bool.false_ne_true] at hrun
    rcases hrow : (d.dispatchRow m).run u with ⟨e | outcome, u₁⟩
    · -- the cycle would end early
      rw [Action.run_bind_of_error hrow] at hrun
      cases hrun
    · have hdelivered : ∀ rows, d.delivered (m :: rows) u = d.delivered rows u₁ := by
        intro rows
        rw [delivered, List.foldl_cons, hrow]
        rfl
      rw [Action.run_bind_of_ok hrow] at hrun
      rw [hdelivered] at stop ⊢
      refine ih hrun (fun earlier hprefix hne => ?_) stop
      rw [← hdelivered]
      exact before (m :: earlier) (List.prefix_cons_inj m |>.mpr hprefix) (by simpa using hne)

/-- A cycle that is asked to stop makes no calls for the rows behind the visited ones. -/
theorem Polls.cycle_of_stop (h : d.Polls timer phase w) (valid : d.config.problem? = none) {v : W}
    {answer : Except Failure DispatchReport} (hcycle : (d.dispatchOnce.run v).1 = .ok answer)
    {visited rest : List Message} (hstop : d.StopsAt v visited rest) :
    (d.dispatchOnce.run v).2 = d.closed (d.amid v visited) := by
  have hnonempty := hstop.nonempty
  rw [hstop.batch] at hnonempty
  obtain ⟨m, ms, hrows⟩ := List.exists_cons_of_ne_nil hnonempty
  -- the fetch answers with the batch
  have hfetch : d.fetchBatch.run v = (.ok (.ok (m :: ms)), (d.fetchBatch.run v).2) := by
    have hbatch := hstop.batch
    rw [hrows, batch] at hbatch
    split at hbatch
    · next heq => rw [heq, hbatch]
    · cases hbatch
  rw [dispatchOnce_eq valid, Action.run_bind_of_ok hfetch, handleBatch] at hcycle ⊢
  rcases hdeliver : (d.dispatchRows { fetched := (m :: ms).length } (m :: ms)).run (d.opened v) with
    ⟨e | r, u⟩
  · -- the cycle would end early
    have hbatch : (d.dispatchBatch (m :: ms)).run (d.fetchBatch.run v).2 = (.error e, u) := by
      rw [dispatchBatch, Action.run_bind_of_ok (h.run_setPhase _ _),
        Action.run_bind_of_ok (h.run_setPhase _ _)]
      exact Action.run_bind_of_error hdeliver
    rw [Action.run_bind_of_error hbatch] at hcycle
    cases hcycle
  · have hbatch : (d.dispatchBatch (m :: ms)).run (d.fetchBatch.run v).2 = (.ok r, d.closed u) := by
      rw [dispatchBatch, Action.run_bind_of_ok (h.run_setPhase _ _),
        Action.run_bind_of_ok (h.run_setPhase _ _)]
      show (d.dispatchRows _ _ >>= _).run (d.opened v) = _
      rw [Action.run_bind_of_ok hdeliver, Action.run_bind_of_ok (h.run_setPhase _ _),
        Action.run_bind_of_ok (h.run_setPhase _ _), Action.run_pure, closed]
    rw [Action.run_bind_of_ok hbatch, Action.run_pure]
    rw [← hrows] at hdeliver
    rw [dispatchRows_of_stop hdeliver hstop.before hstop.stop, amid]

/-- If something holds of a row before, it holds afterwards. -/
def Keeps (holds : Message → W → Prop) (m : Message) (v v' : W) : Prop :=
  holds m v → holds m v'

/-- What holds of a row is kept by everything but calls about the row. -/
structure Frames (d : Dispatcher W κ) (holds : Message → W → Prop) : Prop where
  fetch : ∀ limit maxAttempts m, (d.outbox.fetch limit maxAttempts).Within (Keeps holds m)
  markProcessed : ∀ id at_ m, m.id ≠ id → (d.outbox.markProcessed id at_).Within (Keeps holds m)
  recordFailure : ∀ id error m, m.id ≠ id →
    (d.outbox.recordFailure id error).Within (Keeps holds m)
  publish : ∀ e m, (d.publish e).Within (Keeps holds m)
  setPhase : ∀ p m, (d.setPhase p).Within (Keeps holds m)

variable {holds : Message → W → Prop} {m : Message} {v : W}

theorem Keeps.refl (holds : Message → W → Prop) (m : Message) (v : W) : Keeps holds m v v := id

theorem Keeps.trans (holds : Message → W → Prop) (m : Message) (u v v' : W)
    (h : Keeps holds m u v) (h' : Keeps holds m v v') : Keeps holds m u v' :=
  fun hm => h' (h hm)

/-- Nothing is known of a row until its batch is opened that was not known before. -/
theorem Frames.opened (h : d.Frames holds) (hm : holds m v) : holds m (d.opened v) := by
  have hfetch : d.fetchBatch.Within (Keeps holds m) :=
    Action.Within.bind (Keeps.trans holds m) (h.setPhase _ m) fun _ => h.fetch _ _ m
  exact h.setPhase _ m _ (h.setPhase _ m _ (hfetch v hm))

/-- The delivery of other rows keeps what holds of a row. -/
theorem Frames.delivered (h : d.Frames holds) {visited : List Message}
    (hother : m.id ∉ visited.map Message.id) (hm : holds m v) :
    holds m (d.delivered visited v) := by
  induction visited generalizing v with
  | nil => exact hm
  | cons x visited ih =>
    rw [List.map_cons, List.mem_cons, not_or] at hother
    have hrow : (d.dispatchRow x).Within (Keeps holds m) :=
      dispatchRow_within (Keeps.refl holds m) (Keeps.trans holds m)
        (fun at_ => h.markProcessed x.id at_ m hother.1)
        (fun error => h.recordFailure x.id error m hother.1) fun e => h.publish e m
    exact ih hother.2 (hrow v hm)

/-! ## §4 Time -/

/-- No beat comes before the moment that it is for. -/
theorem le_nextBeat {grain : Nat} (hgrain : 0 < grain) (moment : Nat) :
    moment ≤ nextBeat grain moment := by
  have hdiv := Nat.div_add_mod (moment + (grain - 1)) grain
  have hmod := Nat.mod_lt (moment + (grain - 1)) hgrain
  rw [Nat.mul_comm] at hdiv
  rw [nextBeat]
  omega

/-- Later moments have later beats. -/
theorem nextBeat_mono (grain : Nat) {a b : Nat} (h : a ≤ b) :
    nextBeat grain a ≤ nextBeat grain b :=
  Nat.mul_le_mul_right grain (Nat.div_le_div_right (Nat.add_le_add_right h _))

/-- A moment on the beat is its own next beat. -/
theorem nextBeat_of_dvd {grain moment : Nat} (hgrain : 0 < grain) (h : grain ∣ moment) :
    nextBeat grain moment = moment := by
  obtain ⟨k, rfl⟩ := h
  have hless : grain - 1 < grain := Nat.sub_lt hgrain Nat.one_pos
  rw [nextBeat, Nat.mul_add_div hgrain, Nat.div_eq_of_lt hless, Nat.add_zero, Nat.mul_comm]

/-- What the loop assumes of its ticks, when the beats of the timer are `grain` nanoseconds apart:
the first one is due at once, and a missed one delays the next. -/
structure Ticks (d : Dispatcher W κ) (timer : Timer W) (grain : Nat) : Prop where
  positive : 0 < grain
  first : ∀ start, timer.firstTick start = start
  /-- A wait that nobody cuts short ends at the first beat at which its moment has come. -/
  waits : ∀ l : Lap W, d.cancelled (l.ticked timer) = false →
    timer.now (l.ticked timer) = max (timer.now l.world) (nextBeat grain l.due)
  /-- The next tick is due one period after a tick that is noticed at its beat. -/
  keeps : ∀ due, timer.nextTick d.period due (nextBeat grain due) = due + d.period
  /-- After a tick that is noticed late, the period may count from when it was noticed. -/
  delays : ∀ due now, due ≤ now → timer.nextTick d.period due now = due + d.period ∨
    timer.nextTick d.period due now = now + d.period

/-- When a cycle starts: the time at which its tick is noticed. -/
def startOf (d : Dispatcher W κ) (timer : Timer W) (w : W) (j : Nat) : Nat :=
  timer.now ((d.lap timer w j).ticked timer)

/-- The first `n` cycles take no time. -/
def Instantaneous (d : Dispatcher W κ) (timer : Timer W) (w : W) (n : Nat) : Prop :=
  ∀ j < n, timer.now (d.lap timer w (j + 1)).world = d.startOf timer w j

section Ticks

variable {grain n : Nat}

/-- A cycle starts when its wait began or at the beat of its tick, whichever is later. -/
theorem Ticks.startOf_eq (h : d.Ticks timer grain) {j : Nat}
    (htaken : d.Taken timer (d.lap timer w j)) : d.startOf timer w j =
      max (timer.now (d.lap timer w j).world) (nextBeat grain (d.lap timer w j).due) :=
  h.waits _ htaken.2

/-- No cycle starts before its tick is due. -/
theorem Ticks.due_le_startOf (h : d.Ticks timer grain) {j : Nat}
    (htaken : d.Taken timer (d.lap timer w j)) : (d.lap timer w j).due ≤ d.startOf timer w j := by
  rw [h.startOf_eq htaken]
  exact Nat.le_trans (le_nextBeat h.positive _) (Nat.le_max_right _ _)

/-- The next tick follows from when this one was due and when it was noticed. -/
theorem due_succ (d : Dispatcher W κ) (timer : Timer W) (w : W) (j : Nat) :
    (d.lap timer w (j + 1)).due =
      timer.nextTick d.period (d.lap timer w j).due (d.startOf timer w j) := by
  rw [lap_succ]
  rfl

/-- Ticks are due one period after the other at the earliest. -/
theorem Ticks.le_due (h : d.Ticks timer grain)
    (htaken : ∀ j < n, d.Taken timer (d.lap timer w j)) :
    timer.now w + n * d.period ≤ (d.lap timer w n).due := by
  induction n with
  | zero =>
    have hdue : (d.lap timer w 0).due = timer.now w := h.first _
    omega
  | succ n ih =>
    have hbefore := ih fun j hj => htaken j (Nat.lt_succ_of_lt hj)
    have hnoticed := h.due_le_startOf (htaken n n.lt_succ_self)
    rw [due_succ, Nat.succ_mul]
    -- whether the timer keeps its grid or delays, a period passes after the due time at least
    rcases h.delays _ _ hnoticed with hkept | hdelayed <;> omega

/-- Ticks are due exactly one period after the other when cycles take no time, and each wait begins
before its tick is noticed. -/
theorem Ticks.due_eq (h : d.Ticks timer grain)
    (htaken : ∀ j < n, d.Taken timer (d.lap timer w j)) (still : d.Instantaneous timer w n) :
    (d.lap timer w n).due = timer.now w + n * d.period ∧
      timer.now (d.lap timer w n).world ≤ nextBeat grain (d.lap timer w n).due := by
  induction n with
  | zero =>
    have hdue : (d.lap timer w 0).due = timer.now w := h.first _
    refine ⟨by omega, ?_⟩
    rw [hdue]
    exact le_nextBeat h.positive _
  | succ n ih =>
    -- the wait for this tick began before its beat, so the tick is noticed on the beat
    have hn := htaken n n.lt_succ_self
    obtain ⟨hdue, hnow⟩ := ih (fun j hj => htaken j (Nat.lt_succ_of_lt hj)) fun j hj =>
      still j (Nat.lt_succ_of_lt hj)
    have htick : d.startOf timer w n = nextBeat grain (d.lap timer w n).due := by
      rw [h.startOf_eq hn, Nat.max_eq_right hnow]
    have hnext : (d.lap timer w (n + 1)).due = (d.lap timer w n).due + d.period := by
      rw [due_succ, htick, h.keeps]
    refine ⟨?_, ?_⟩
    · rw [hnext, hdue, Nat.succ_mul, Nat.add_assoc]
    · rw [still n n.lt_succ_self, htick, hnext]
      exact nextBeat_mono grain (Nat.le_add_right _ _)

end Ticks

/-- When the first `n` cycles start, with a timer whose beats are `grain` nanoseconds apart. -/
structure Paced (d : Dispatcher W κ) (timer : Timer W) (w : W) (n grain : Nat) : Prop where
  /-- Cycles start one period after the other at the earliest. -/
  notBefore : ∀ j < n, timer.now w + j * d.period ≤ d.startOf timer w j
  /-- A cycle starts at most a period after the one before, unless that one takes longer. -/
  follows : ∀ j, j + 1 < n → d.startOf timer w (j + 1) ≤
    max (timer.now (d.lap timer w (j + 1)).world) (nextBeat grain (d.startOf timer w j + d.period))
  /-- When cycles take no time, they start one period after the other, as far as the timer can
  tell. -/
  steady : d.Instantaneous timer w n →
    ∀ j < n, d.startOf timer w j = nextBeat grain (timer.now w + j * d.period)
  /-- They do so exactly when the timer has a beat at that moment. -/
  onTheBeat : d.Instantaneous timer w n →
    ∀ j < n, grain ∣ timer.now w + j * d.period →
      d.startOf timer w j = timer.now w + j * d.period

/-- Ticks that keep the assumptions of the timer pace the cycles. -/
theorem paced {n grain : Nat} (h : d.Ticks timer grain)
    (htaken : ∀ j < n, d.Taken timer (d.lap timer w j)) : d.Paced timer w n grain := by
  have steady : d.Instantaneous timer w n →
      ∀ j < n, d.startOf timer w j = nextBeat grain (timer.now w + j * d.period) := by
    intro still j hj
    obtain ⟨hdue, hnow⟩ := h.due_eq (fun i hi => htaken i (Nat.lt_trans hi hj)) fun i hi =>
      still i (Nat.lt_trans hi hj)
    rw [h.startOf_eq (htaken j hj), Nat.max_eq_right hnow, hdue]
  constructor
  case notBefore =>
    intro j hj
    exact Nat.le_trans (h.le_due fun i hi => htaken i (Nat.lt_trans hi hj))
      (h.due_le_startOf (htaken j hj))
  case follows =>
    intro j hj
    have hnoticed := h.due_le_startOf (htaken j (Nat.lt_of_succ_lt hj))
    -- noticed late or not, the next tick is due at most a period after this one was noticed
    have hdue : (d.lap timer w (j + 1)).due ≤ d.startOf timer w j + d.period := by
      rw [due_succ]
      rcases h.delays _ _ hnoticed with hkept | hdelayed <;> omega
    rw [h.startOf_eq (htaken (j + 1) hj)]
    exact Nat.max_le.mpr ⟨Nat.le_max_left _ _,
      Nat.le_trans (nextBeat_mono grain hdue) (Nat.le_max_right _ _)⟩
  case steady => exact steady
  case onTheBeat =>
    intro still j hj hbeat
    rw [steady still j hj, nextBeat_of_dvd h.positive hbeat]

end Dispatcher

end EventOutbox
