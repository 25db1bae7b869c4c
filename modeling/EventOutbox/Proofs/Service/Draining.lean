import EventOutbox.Proofs.Service.Cycles
import EventOutbox.Proofs.Service.Sample
import EventOutbox.Proofs.Store.Reachable
import Mathlib.Data.List.Perm.Subperm

/-!
# Attempts that run out

When attempts are limited, every attempt of a row either processes it or is counted as failed, so
that the row has fewer attempts left.  The sum of the attempts that are left falls with every row
that a cycle delivers, whatever publishing and marking answer, and when it is used up nothing is
fetched any more.  A failure is only counted below the limit, so the counter is never full.

## Main statement

- `Service.outbox_drains`
-/

namespace EventOutbox

/-! ## §1 Attempts that are left -/

/-- The attempts that a row has left when `m` may fail. -/
def Message.attemptsLeft (m : UInt32) (x : Message) : Nat :=
  if x.isPending then m.toNat - x.retryCount.toNat else 0

theorem Message.attemptsLeft_le (m : UInt32) (x : Message) : x.attemptsLeft m ≤ m.toNat := by
  unfold attemptsLeft
  split
  · exact Nat.sub_le _ _
  · exact Nat.zero_le _

/-- Only an eligible row has attempts left. -/
theorem Message.attemptsLeft_pos_iff {m : UInt32} {x : Message} : 0 < x.attemptsLeft m ↔
    x.isPending = true ∧ x.attemptsExhausted (some m) = false := by
  unfold attemptsLeft attemptsExhausted
  rw [decide_eq_false_iff_not, UInt32.not_le, UInt32.lt_iff_toNat_lt]
  split
  · next hpending => rw [Nat.sub_pos_iff_lt, and_iff_right hpending]
  · next hdone => exact iff_of_false (Nat.lt_irrefl 0) fun h => hdone h.1

/-- A row with attempts left has room for one more failure, which uses one up. -/
theorem Message.room_of_attemptsLeft {m : UInt32} {x : Message} (h : 0 < x.attemptsLeft m) :
    x.retryCount.toNat + 1 ≤ m.toNat ∧ x.retryCount.toNat + 1 < UInt32.size := by
  obtain ⟨-, hexhausted⟩ := attemptsLeft_pos_iff.mp h
  rw [attemptsExhausted, decide_eq_false_iff_not, UInt32.not_le, UInt32.lt_iff_toNat_lt]
    at hexhausted
  exact ⟨hexhausted, Nat.lt_of_le_of_lt hexhausted m.toNat_lt⟩

namespace Store

/-- The attempts that the pending rows have left which failed less than `m` times. -/
def attemptsLeft (m : UInt32) (s : Store) : Nat :=
  ((s.messages.filter fun x => x.isPending && x.retryCount < m).map fun x =>
    m.toNat - x.retryCount.toNat).sum

/-- The sum may as well run over all rows, since the others have no attempts left. -/
theorem attemptsLeft_eq_sum (m : UInt32) (s : Store) :
    s.attemptsLeft m = (s.messages.map (Message.attemptsLeft m)).sum := by
  rw [attemptsLeft]
  induction s.messages with
  -- row by row: what the filter leaves out adds nothing to the other sum
  | nil => rfl
  | cons x xs ih =>
    rw [List.map_cons, List.sum_cons, ← ih]
    unfold Message.attemptsLeft
    by_cases hpending : x.isPending = true
    · by_cases hlt : x.retryCount < m
      · simp [hpending, hlt]
      · -- a row that has used up its attempts does not count
        have hle := UInt32.le_iff_toNat_le.mp (UInt32.not_lt.mp hlt)
        simp [hpending, hlt, Nat.sub_eq_zero_of_le hle]
    · -- a processed row has none left either
      simp [hpending]

/-- No attempts are left exactly when no row is eligible. -/
theorem attemptsLeft_eq_zero_iff {m : UInt32} {s : Store} :
    s.attemptsLeft m = 0 ↔ s.eligible (some m) = [] := by
  rw [attemptsLeft_eq_sum, List.sum_eq_zero_iff_forall_eq_nat, List.forall_mem_map,
    List.eq_nil_iff_forall_not_mem]
  refine forall_congr' fun x => ?_
  rw [mem_eligible_iff, ← Message.attemptsLeft_pos_iff, Nat.pos_iff_ne_zero]
  tauto

end Store

namespace Service

variable {κ ι E : Type} [EventCatalog κ] {d : Dispatcher (Service κ ι E) κ} {m : UInt32}

/-! ## §2 What one cycle does to each row -/

/-- A dispatcher that leaves a row alone after `m` failed attempts, and whose publishing always
answers and leaves the outbox rows as they are. -/
structure Cutoff (m : UInt32) (d : Dispatcher (Service κ ι E) κ) : Prop where
  serves : Serves d
  limited : d.config.maxAttempts = some m
  publish : ∀ e w, (d.publish e).Ensures w (fun _ w' => w'.store.outbox = w.store.outbox ∧
    w'.store.nextSeq = w.store.nextSeq) fun _ => False

/-- What a cycle that has attempted the given rows made of a row. -/
structure Spent (m : UInt32) (attempted : List Uuid) (x x' : Message) : Prop where
  sameEvent : x.SameEvent x'
  waiting : x.id ∉ attempted → x' = x
  spent : x.id ∈ attempted → x'.attemptsLeft m < x.attemptsLeft m
  retries : x'.retryCount = x.retryCount ∨ x'.retryCount ≤ m

/-- Whether or not the cycle attempted a row, it gives it no further attempts. -/
theorem Spent.attemptsLeft_le {attempted : List Uuid} {x x' : Message}
    (h : Spent m attempted x x') : x'.attemptsLeft m ≤ x.attemptsLeft m := by
  by_cases hx : x.id ∈ attempted
  · exact Nat.le_of_lt (h.spent hx)
  · exact Nat.le_of_eq (congrArg _ (h.waiting hx))

/-- In the midst of a cycle that began at `w`, every row was changed as the attempted rows tell. -/
structure Spending (m : UInt32) (w : Service κ ι E) (attempted : List Message)
    (v : Service κ ι E) : Prop where
  sound : v.store.Sound
  rows : List.Forall₂ (Spent m (attempted.map Message.id)) w.store.messages v.store.messages

variable {w v v' : Service κ ι E} {attempted : List Message}

/-- A cycle that begins has attempted nothing. -/
theorem spending_nothing (m : UInt32) (hs : w.store.Sound) : Spending m w [] w :=
  ⟨hs, List.forall₂_same.mpr fun x _ => ⟨.refl x, fun _ => rfl, fun h => by simp at h, .inl rfl⟩⟩

/-- Nothing changes that leaves the outbox and its counter as they are. -/
theorem Spending.same (h : Spending m w attempted v) (houtbox : v'.store.outbox = v.store.outbox)
    (hnextSeq : v'.store.nextSeq = v.store.nextSeq) : Spending m w attempted v' := by
  have hmessages : v'.store.messages = v.store.messages := by
    rw [Store.messages, Store.messages, houtbox]
  refine ⟨h.sound.congr houtbox hnextSeq, ?_⟩
  rw [hmessages]
  exact h.rows

theorem Spending.fault (h : Spending m w attempted v) (faults : Faults) :
    Spending m w attempted { v with store := { v.store with faults } } :=
  h.same rfl rfl

/-- A row that was not attempted yet is stored as it was when the cycle began. -/
theorem Spending.waiting (h : Spending m w attempted v) {x : Message}
    (hx : x ∈ w.store.messages) (hnew : x.id ∉ attempted.map Message.id) :
    x ∈ v.store.messages := by
  obtain ⟨x', hx', hspent⟩ := exists_right_of_forall₂ h.rows hx
  obtain rfl := hspent.waiting hnew
  exact hx'

/-- The cycle attempts one more row. -/
theorem Spending.attempt (h : Spending m w attempted v) (hs : w.store.Sound) {x : Message}
    (hx : x ∈ w.store.messages) (hnew : x.id ∉ attempted.map Message.id) {f : Message → Message}
    (sameEvent : ∀ y : Message, y.SameEvent (f y))
    (spent : (f x).attemptsLeft m < x.attemptsLeft m)
    (retries : (f x).retryCount = x.retryCount ∨ (f x).retryCount ≤ m)
    (hstore : v'.store = v.store.change x.id f) : Spending m w (attempted ++ [x]) v' := by
  constructor
  case sound =>
    rw [hstore]
    exact h.sound.change x.id fun y => (sameEvent y).id
  case rows =>
    rw [hstore, Store.messages_change h.sound]
    refine forall₂_map_of_mem h.rows fun y hy y' hspent => ?_
    simp only [List.map_append, List.map_cons, List.map_nil]
    by_cases hyx : y.id = x.id
    · -- this is the row at hand, which was not attempted before
      obtain rfl := hs.eq_of_id_eq hy hx hyx
      obtain rfl := hspent.waiting hnew
      rw [if_pos rfl]
      exact ⟨sameEvent y', fun hnot => absurd (List.mem_append_right _ List.mem_cons_self) hnot,
        fun _ => spent, retries⟩
    · -- any other row stays as the cycle made it so far
      have hother : y.id ∈ attempted.map Message.id ++ [x.id] ↔
          y.id ∈ attempted.map Message.id := by simp [hyx]
      rw [if_neg (by rw [hspent.sameEvent.id]; exact hyx)]
      exact ⟨hspent.sameEvent, by rw [hother]; exact hspent.waiting,
        by rw [hother]; exact hspent.spent, hspent.retries⟩

/-- A failed attempt is counted, since the counter of an eligible row is not full. -/
theorem Spending.fails (hd : Serves d) (h : Spending m w attempted v) (hs : w.store.Sound)
    {x : Message} (hx : x ∈ w.store.messages) (hleft : 0 < x.attemptsLeft m)
    (hnew : x.id ∉ attempted.map Message.id) (f : Failure) (outcome : RowOutcome) :
    (d.recordFailure x f outcome).Ensures v (fun _ v' => Spending m w (attempted ++ [x]) v')
      fun _ => False := by
  obtain ⟨hlimit, hroom⟩ := Message.room_of_attemptsLeft hleft
  have hpending := (Message.attemptsLeft_pos_iff.mp hleft).1
  have hcount := Message.retryCount_failed hroom f.text
  rw [Dispatcher.recordFailure_ensures, hd.outbox]
  refine Action.ensures_of_run_ok
    (outbox_recordFailure_run h.sound (h.waiting hx hnew) f.text hroom) ?_
  refine h.attempt hs hx hnew (Message.sameEvent_failed f.text) ?_ (.inr ?_) rfl
  -- the failed row still waits, with one attempt less
  · have hpending' : (x.failed f.text).isPending = true := hpending
    rw [Message.attemptsLeft, Message.attemptsLeft, if_pos hpending, if_pos hpending', hcount]
    omega
  · rw [UInt32.le_iff_toNat_le, hcount]
    exact hlimit

/-- A mark processes the row, or meets a fault and counts as a failed attempt. -/
theorem Spending.marks (hd : Serves d) (h : Spending m w attempted v) (hs : w.store.Sound)
    {x : Message} (hx : x ∈ w.store.messages) (hleft : 0 < x.attemptsLeft m)
    (hnew : x.id ∉ attempted.map Message.id) (at_ : Instant) :
    (d.outbox.markProcessed x.id at_).Ensures v (fun
      | .error f, v' => (d.recordFailure x f .failed).Ensures v'
        (fun _ v'' => Spending m w (attempted ++ [x]) v'') fun _ => False
      | .ok (), v' => Spending m w (attempted ++ [x]) v') fun _ => False := by
  have hpending := (Message.attemptsLeft_pos_iff.mp hleft).1
  have hmarked : x.marked at_ = x.markProcessed at_ := if_pos hpending
  have hrun := outbox_markProcessed_eq h.sound (h.waiting hx hnew) at_
  rw [hd.outbox]
  cases hfault : v.store.faults.markProcessed with
  | some f =>
    rw [hfault] at hrun
    refine Action.ensures_of_run_ok hrun ?_
    exact (h.fault _).fails hd hs hx hleft hnew f .failed
  | none =>
    rw [hfault] at hrun
    refine Action.ensures_of_run_ok hrun ?_
    refine h.attempt hs hx hnew (Message.sameEvent_marked at_) ?_ (.inl ?_) rfl
    · rw [hmarked]
      exact hleft
    · rw [hmarked]
      rfl

/-- Whatever publishing and marking answer, the attempt of a row is accounted for. -/
theorem Spending.dispatchRow (hd : Cutoff m d) (h : Spending m w attempted v)
    (hs : w.store.Sound) {x : Message} (hx : x ∈ w.store.messages) (hleft : 0 < x.attemptsLeft m)
    (hnew : x.id ∉ attempted.map Message.id) : (d.dispatchRow x).Ensures v
      (fun _ v' => Spending m w (attempted ++ [x]) v') fun _ => False := by
  apply Dispatcher.dispatchRow_ensures
  · -- a row that cannot be read fails without being published
    exact fun cause _ => h.fails hd.serves hs hx hleft hnew cause.failure .skipped
  · intro e _
    refine (hd.publish e v).mono (fun answer v₁ ⟨houtbox, hnextSeq⟩ => ?_) fun _ hfalse => hfalse
    have h₁ := h.same houtbox hnextSeq
    -- a refused event is a failed attempt; an accepted one leaves it to the mark
    rcases answer with f | _
    · exact h₁.fails hd.serves hs hx hleft hnew f .failed
    · refine (h₁.marks hd.serves hs hx hleft hnew (d.clock v₁)).mono (fun mark v₂ hmark => ?_)
        fun _ hfalse => hfalse
      rcases mark with f | _
      · exact hmark
      · exact hmark

/-- A batch has only rows with attempts left. -/
theorem Cutoff.attemptsLeft_of_mem_batch (hd : Cutoff m d) {x : Message} (hx : x ∈ d.batch w) :
    0 < x.attemptsLeft m := by
  have heligible := hd.serves.eligible_of_mem_batch hx
  rw [hd.limited, Store.mem_eligible_iff] at heligible
  exact Message.attemptsLeft_pos_iff.mpr heligible.2

/-- A cycle always answers, and attempts the rows that it reaches. -/
theorem Cutoff.cycle (hd : Cutoff m d) (hs : w.store.Sound) :
    (∃ answer, (d.dispatchOnce.run w).1 = .ok answer ∧ Dispatcher.Answered d w answer) ∧
      Spending m w (d.reached w) (d.dispatchOnce.run w).2 := by
  have hcycle : d.dispatchOnce.Ensures w
      (fun answer v => Spending m w (Dispatcher.reachedRows (d.batch w) answer) v)
      fun _ => False := by
    apply hd.serves.dispatchOnce_ensures (spending_nothing m hs)
    case idle =>
      rintro attempted v v' h ⟨faults, rest, rfl⟩
      exact h.same rfl rfl
    case row =>
      intro attempted x rest v hbatch h
      obtain ⟨hx, -, hnew⟩ := hd.serves.next_in_batch hbatch
      -- a fetched row is eligible, and still waits for its attempt
      have hleft : 0 < x.attemptsLeft m := by
        refine hd.attemptsLeft_of_mem_batch (w := w) ?_
        rw [hbatch]
        exact List.mem_append_right _ List.mem_cons_self
      exact h.dispatchRow hd hs hx hleft (hnew hs)
  obtain ⟨answer, hrun, -⟩ := hcycle.exists_answer
  exact ⟨⟨answer, hrun, (Dispatcher.dispatchOnce_answered d w).answered hrun⟩,
    Dispatcher.holds_after_cycle hcycle⟩

/-- Every attempt uses up at least one of those that are left. -/
theorem Spending.attemptsLeft_le (h : Spending m w attempted v)
    (hnodup : (attempted.map Message.id).Nodup)
    (hstored : ∀ x ∈ attempted, x ∈ w.store.messages) :
    v.store.attemptsLeft m + attempted.length ≤ w.store.attemptsLeft m := by
  -- the sum falls by one at least for every row among those attempted
  have hsum := sum_add_countP_le_of_forall₂ (p := fun x => x.id ∈ attempted.map Message.id) h.rows
    (fun _ _ hspent => hspent.attemptsLeft_le)
    fun _ _ hspent hx => hspent.spent (of_decide_eq_true hx)
  -- the attempted rows are stored, each of them once
  have hsubset : attempted.map Message.id ⊆
      (w.store.messages.filter fun x => x.id ∈ attempted.map Message.id).map Message.id := by
    intro id hid
    obtain ⟨x, hx, rfl⟩ := List.mem_map.mp hid
    exact List.mem_map_of_mem
      (List.mem_filter.mpr ⟨hstored x hx, decide_eq_true (List.mem_map_of_mem hx)⟩)
  have hlength := (hnodup.subperm hsubset).length_le
  rw [List.length_map, List.length_map, ← List.countP_eq_length_filter] at hlength
  rw [Store.attemptsLeft_eq_sum, Store.attemptsLeft_eq_sum]
  omega

/-! ## §3 Runs -/

/-- The runs of one dispatcher from a service, with the answers of its cycles and the rows that
these attempted.  Between the cycles change sets are committed, and anything else may happen that
leaves the outbox rows and the log as they are. -/
inductive Dispatching (d : Dispatcher (Service κ ι E) κ) (v : Service κ ι E) :
    List (Except Failure DispatchReport) → List Message → Service κ ι E → Prop where
  | start : Dispatching d v [] [] v
  | commit {answers attempts w} (run : Dispatching d v answers attempts w) (cs : ChangeSet) :
      Dispatching d v answers attempts { w with store := ((Store.commit cs).run w.store).2 }
  | elsewhere {answers attempts w w'} (run : Dispatching d v answers attempts w)
      (sameRows : w'.store.outbox = w.store.outbox)
      (sameNumber : w'.store.nextSeq = w.store.nextSeq) (sameLog : w'.log = w.log) :
      Dispatching d v answers attempts w'
  | cycle {answers attempts w answer} (run : Dispatching d v answers attempts w)
      (answered : (d.dispatchOnce.run w).1 = .ok answer) :
      Dispatching d v (answers ++ [answer]) (attempts ++ d.reached w) (d.dispatchOnce.run w).2

/-- Whether a cycle fetched its batch and nobody stopped it. -/
def complete : Except Failure DispatchReport → Bool
  | .ok r => r.cancelled = 0
  | .error _ => false

/-- The account of attempts: no row has more than it may have, and if no rows were added, every
complete cycle used up an attempt or there was none left. -/
structure Metered (m : UInt32) (v : Service κ ι E) (answers : List (Except Failure DispatchReport))
    (attempts : List Message) (w : Service κ ι E) : Prop where
  sound : w.store.Sound
  known : ∀ id ∈ attempts.map Message.id, id ∈ w.store.ids
  each : ∀ x ∈ w.store.messages,
    (attempts.map Message.id).count x.id + x.attemptsLeft m ≤ m.toNat
  longer : v.store.messages.length ≤ w.store.messages.length
  left : w.store.messages.length = v.store.messages.length → w.store.attemptsLeft m = 0 ∨
    w.store.attemptsLeft m + answers.countP complete ≤ v.store.attemptsLeft m

variable {answers : List (Except Failure DispatchReport)} {attempts : List Message}

/-- At first nothing was attempted, and every row has at most all its attempts left. -/
theorem metered_start (m : UInt32) (hs : v.store.Sound) : Metered m v [] [] v where
  sound := hs
  known := by simp
  each := fun x _ => by
    rw [List.map_nil, List.count_nil, Nat.zero_add]
    exact x.attemptsLeft_le m
  longer := Nat.le_refl _
  left := fun _ => .inr (Nat.le_refl _)

/-- Rows may be added between cycles. -/
theorem Metered.grows (h : Metered m v answers attempts w) (hgrows : w.store.Grows v'.store) :
    Metered m v answers attempts v' := by
  obtain ⟨added, hadded⟩ := hgrows.rows
  have hs := hgrows.sound h.sound
  have hids : v'.store.ids = w.store.ids ++ added.map Message.id := by
    rw [Store.ids_eq_map_messages, Store.ids_eq_map_messages, hadded, List.map_append]
  constructor
  case sound => exact hs
  case known =>
    intro id hid
    rw [hids]
    exact List.mem_append_left _ (h.known id hid)
  case each =>
    intro x hx
    rw [hadded] at hx
    rcases List.mem_append.mp hx with hx | hx
    · exact h.each x hx
    · -- a new row was not attempted
      have hnew : x.id ∉ attempts.map Message.id := by
        intro hid
        have hnodup := hs.ids_nodup
        rw [hids, List.nodup_append] at hnodup
        exact hnodup.2.2 x.id (h.known x.id hid) x.id (List.mem_map_of_mem hx) rfl
      rw [List.count_eq_zero_of_not_mem hnew, Nat.zero_add]
      exact x.attemptsLeft_le m
  case longer =>
    rw [hadded, List.length_append]
    exact Nat.le_add_right_of_le h.longer
  case left =>
    intro hsame
    -- an equal number of rows means that none was added
    rw [hadded, List.length_append] at hsame
    have hlonger := h.longer
    obtain rfl : added = [] := List.length_eq_zero_iff.mp (by omega)
    have hleft : v'.store.attemptsLeft m = w.store.attemptsLeft m := by
      rw [Store.attemptsLeft_eq_sum, Store.attemptsLeft_eq_sum, hadded, List.append_nil]
    rw [hleft]
    exact h.left (by omega)

/-- A cycle uses up an attempt of every row that it reaches. -/
theorem Cutoff.reached_lowers (hd : Cutoff m d) (hs : w.store.Sound) :
    (d.dispatchOnce.run w).2.store.attemptsLeft m + (d.reached w).length ≤
      w.store.attemptsLeft m := by
  have hsublist := d.reached_sublist w
  refine (hd.cycle hs).2.attemptsLeft_le ((hd.serves.nodup_batch hs).sublist (hsublist.map _)) ?_
  exact fun x hx => (hd.serves.mem_batch (hsublist.subset hx)).1

/-- A cycle that nobody stops uses up at least as many attempts as it fetches rows. -/
theorem Cutoff.fetched_lowers (hd : Cutoff m d) (hs : w.store.Sound) {r : DispatchReport}
    (hrun : (d.dispatchOnce.run w).1 = .ok (.ok r)) (hcancelled : r.cancelled = 0) :
    (d.dispatchOnce.run w).2.store.attemptsLeft m + r.fetched ≤ w.store.attemptsLeft m := by
  obtain ⟨hreached, hfetched⟩ := Dispatcher.reached_of_uncancelled hrun hcancelled
  rw [hfetched, ← hreached]
  exact hd.reached_lowers hs

/-- Nothing is fetched only when no attempts are left. -/
theorem Cutoff.attemptsLeft_of_empty (hd : Cutoff m d) {r : DispatchReport}
    (hrun : (d.dispatchOnce.run w).1 = .ok (.ok r)) (hempty : r.fetched = 0) :
    w.store.attemptsLeft m = 0 := by
  rw [Store.attemptsLeft_eq_zero_iff, ← hd.limited]
  cases (Dispatcher.dispatchOnce_answered d w).answered hrun with
  | reported _ hvalid hfetch hfetched =>
    rw [hempty, hd.serves.batch_of_fetch hfetch, List.length_take] at hfetched
    -- a valid batch holds at least one row, so an empty one means that no row is eligible
    have hsize : d.config.batchSize ≠ 0 := by
      intro hzero
      simp only [DispatcherConfig.problem?, hzero, if_true] at hvalid
      split at hvalid <;> cases hvalid
    have hpos : d.config.batchSize.toNat ≠ 0 := fun hzero => hsize (UInt32.toNat_inj.mp hzero)
    exact List.length_eq_zero_iff.mp (by omega)

/-- A complete cycle uses up an attempt, or there was none left. -/
theorem Cutoff.complete_lowers (hd : Cutoff m d) (hs : w.store.Sound)
    {answer : Except Failure DispatchReport} (hrun : (d.dispatchOnce.run w).1 = .ok answer)
    (hcomplete : complete answer = true) :
    w.store.attemptsLeft m = 0 ∨
      (d.dispatchOnce.run w).2.store.attemptsLeft m < w.store.attemptsLeft m := by
  rcases answer with f | r
  · cases hcomplete
  · have hfetched := hd.fetched_lowers hs hrun (of_decide_eq_true hcomplete)
    -- every row that was fetched used up an attempt
    by_cases hempty : r.fetched = 0
    · exact .inl (hd.attemptsLeft_of_empty hrun hempty)
    · exact .inr (by omega)

/-- A cycle keeps the account.  It adds the rows that it reaches to the attempts, and if it fetched
nothing at all, then there was nothing left to use up. -/
theorem Metered.cycle (hd : Cutoff m d) (h : Metered m v answers attempts w)
    {answer : Except Failure DispatchReport} (hrun : (d.dispatchOnce.run w).1 = .ok answer) :
    Metered m v (answers ++ [answer]) (attempts ++ d.reached w) (d.dispatchOnce.run w).2 := by
  have hspending := (hd.cycle h.sound).2
  have hsublist := d.reached_sublist w
  have hnodup : ((d.reached w).map Message.id).Nodup :=
    (hd.serves.nodup_batch h.sound).sublist (hsublist.map _)
  -- rows keep their identifiers and their number
  have hids : (d.dispatchOnce.run w).2.store.ids = w.store.ids := by
    rw [Store.ids_eq_map_messages, Store.ids_eq_map_messages]
    exact map_eq_of_forall₂ hspending.rows fun _ _ hspent => hspent.sameEvent.id
  have hlength : (d.dispatchOnce.run w).2.store.messages.length = w.store.messages.length :=
    hspending.rows.length_eq.symm
  constructor
  case sound => exact hspending.sound
  case known =>
    intro id hid
    rw [hids]
    rw [List.map_append] at hid
    rcases List.mem_append.mp hid with hid | hid
    · exact h.known id hid
    · obtain ⟨x, hx, rfl⟩ := List.mem_map.mp hid
      exact Store.mem_ids_iff.mpr ⟨x, (hd.serves.mem_batch (hsublist.subset hx)).1, rfl⟩
  case each =>
    intro x' hx'
    obtain ⟨x, hx, hspent⟩ := exists_left_of_forall₂ hspending.rows hx'
    have hbefore := h.each x hx
    rw [hspent.sameEvent.id, List.map_append, List.count_append]
    by_cases hmem : x.id ∈ (d.reached w).map Message.id
    · -- one more attempt, and fewer that are left
      have hone := List.count_eq_one_of_mem hnodup hmem
      have hless := hspent.spent hmem
      omega
    · -- a row that the cycle did not reach has no more left than before
      have hnone := List.count_eq_zero_of_not_mem hmem
      have hle := hspent.attemptsLeft_le
      omega
  case longer =>
    rw [hlength]
    exact h.longer
  case left =>
    intro hsame
    rw [hlength] at hsame
    have hlowers := hd.reached_lowers h.sound
    rw [List.countP_append, List.countP_singleton]
    -- the last cycle counts only if it was complete
    rcases h.left hsame with hnone | hleft
    · -- there is nothing to use up
      left
      omega
    · cases hcomplete : complete answer with
      | false =>
        right
        simp only [Bool.false_eq_true, if_false]
        omega
      | true =>
        rcases hd.complete_lowers h.sound hrun hcomplete with hnone | hless
        · left
          omega
        · right
          simp only [if_true]
          omega

/-- The account holds after every run, since no step breaks it. -/
theorem Dispatching.metered (hd : Cutoff m d) (hs : v.store.Sound)
    (h : Dispatching d v answers attempts w) : Metered m v answers attempts w := by
  induction h with
  | start => exact metered_start m hs
  | commit _ cs ih => exact ih.grows (Store.commit_within cs _)
  | elsewhere _ sameRows sameNumber _ ih =>
    exact ih.grows (Store.grows_of_same_rows sameRows sameNumber)
  | cycle _ answered ih => exact ih.cycle hd answered

/-! ## §4 Publishing that is noted -/

/-- Publishing an event adds it to the log. -/
def Notes (d : Dispatcher (Service κ ι E) κ) : Prop :=
  ∀ e w, (d.publish e).Ensures w (fun _ w' => w'.log = w.log ++ [e]) fun _ => True

/-- What the registry of a dispatcher reads a row into, if it can read it. -/
def eventOf (d : Dispatcher (Service κ ι E) κ) (x : Message) : Option (Event κ) :=
  (d.registry.decode x.eventType x.payload).toOption

/-- A failure is recorded in the store, so it leaves the log as it found it. -/
theorem Serves.recordFailure_keeps_log (hd : Serves d) (x : Message) (f : Failure)
    (outcome : RowOutcome) (w : Service κ ι E) :
    (d.recordFailure x f outcome).Ensures w (fun _ w' => w'.log = w.log) fun _ => True := by
  rw [Dispatcher.recordFailure_ensures, hd.outbox]
  have hlog : (Service.outbox.recordFailure x.id f.text).Ensures w
      (fun _ w' => w'.log = w.log) fun w' => w'.log = w.log :=
    Action.ensures_world_iff.mpr (outbox_recordFailure_log x.id f.text w)
  exact hlog.mono (fun _ _ h => h) fun _ _ => trivial

/-- The delivery of a row publishes its event, if the row can be read. -/
theorem Notes.dispatchRow (hnotes : Notes d) (hd : Serves d) (x : Message) (w : Service κ ι E) :
    (d.dispatchRow x).Ensures w (fun _ w' => w'.log = w.log ++ [x].filterMap (eventOf d))
      fun _ => True := by
  -- whatever fails after the publishing, the log stays as that left it
  have hfails : ∀ f outcome v, v.log = w.log ++ [x].filterMap (eventOf d) →
      (d.recordFailure x f outcome).Ensures v
        (fun _ v' => v'.log = w.log ++ [x].filterMap (eventOf d)) fun _ => True :=
    fun f outcome v hlog => (hd.recordFailure_keeps_log x f outcome v).mono
      (fun _ _ hsame => hsame.trans hlog) fun _ h => h
  apply Dispatcher.dispatchRow_ensures
  case unreadable =>
    intro cause hdecode
    have hnone : [x].filterMap (eventOf d) = [] := by simp [eventOf, hdecode, Except.toOption]
    exact hfails cause.failure .skipped w (by rw [hnone, List.append_nil])
  case readable =>
    intro e hdecode
    have hone : [x].filterMap (eventOf d) = [e] := by simp [eventOf, hdecode, Except.toOption]
    refine (hnotes e w).mono (fun answer v hlog => ?_) fun _ h => h
    rw [← hone] at hlog
    rcases answer with f | _
    · exact hfails f .failed v hlog
    -- a mark leaves the log alone, whatever it answers
    · have hmark : (outbox.markProcessed x.id (d.clock v)).Ensures v
          (fun _ v' => v'.log = v.log) fun v' => v'.log = v.log :=
        Action.ensures_world_iff.mpr (outbox_markProcessed_log x.id (d.clock v) v)
      rw [hd.outbox]
      refine hmark.mono (fun mark v' hsame => ?_) fun _ _ => trivial
      rcases mark with f | _
      · exact hfails f .failed v' (hsame.trans hlog)
      · exact hsame.trans hlog

/-- A cycle publishes the events of the rows that it reaches and can read. -/
theorem Notes.cycle (hnotes : Notes d) (hd : Serves d) {answer : Except Failure DispatchReport}
    (hrun : (d.dispatchOnce.run w).1 = .ok answer) :
    (d.dispatchOnce.run w).2.log = w.log ++ (d.reached w).filterMap (eventOf d) := by
  have hcycle : d.dispatchOnce.Ensures w (fun answer v =>
      v.log = w.log ++ (Dispatcher.reachedRows (d.batch w) answer).filterMap (eventOf d))
      fun _ => True := by
    apply hd.dispatchOnce_ensures
      (I := fun attempted v => v.log = w.log ++ attempted.filterMap (eventOf d))
    case start => exact (List.append_nil _).symm
    case idle =>
      rintro attempted v v' h ⟨faults, rest, rfl⟩
      exact h
    case row =>
      intro attempted x rest v hbatch h
      refine (hnotes.dispatchRow hd x v).mono (fun _ v' hlog => ?_) fun _ h => h
      rw [hlog, h, List.filterMap_append, List.append_assoc]
  rw [Dispatcher.reached_of_answer hrun]
  exact hcycle.answered hrun

/-- The log grows by the events of the attempted rows, cycle after cycle. -/
theorem Dispatching.log (hd : Serves d) (hnotes : Notes d)
    (h : Dispatching d v answers attempts w) :
    w.log = v.log ++ attempts.filterMap (eventOf d) := by
  induction h with
  | start => exact (List.append_nil _).symm
  | commit _ _ ih => exact ih
  | elsewhere _ _ _ sameLog ih => exact sameLog.trans ih
  | cycle _ answered ih =>
    rw [hnotes.cycle hd answered, ih, List.filterMap_append, List.append_assoc]

/-! ## §5 Draining -/

/-- What a cycle from a service answers and does to its rows. -/
structure Lowers (m : UInt32) (d : Dispatcher (Service κ ι E) κ) (w : Service κ ι E)
    (answer : Except Failure DispatchReport) : Prop where
  answers : (d.dispatchOnce.run w).1 = .ok answer
  /-- Without an armed fault, the fetch succeeds with the oldest eligible rows. -/
  fetched : d.config.problem? = none → w.store.faults.fetch = none → ∃ r, answer = .ok r ∧
    r.fetched = ((w.store.eligible (some m)).take d.config.batchSize.toNat).length
  /-- A cycle that nobody stops uses up at least as many attempts as it fetches rows. -/
  lowers : ∀ r, answer = .ok r → r.cancelled = 0 →
    (d.dispatchOnce.run w).2.store.attemptsLeft m + r.fetched ≤ w.store.attemptsLeft m
  /-- No failure count is raised above the limit. -/
  retries : List.Forall₂ (fun x x' : Message => x.SameEvent x' ∧
      (x'.retryCount = x.retryCount ∨ x'.retryCount ≤ m))
    w.store.messages (d.dispatchOnce.run w).2.store.messages

/-- What holds after a run of a dispatcher from `v`. -/
structure Drains (m : UInt32) (d : Dispatcher (Service κ ι E) κ) (v : Service κ ι E)
    (answers : List (Except Failure DispatchReport)) (attempts : List Message)
    (w : Service κ ι E) : Prop where
  /-- The next cycle answers and lowers the number of attempts that are left. -/
  next : ∃ answer, Lowers m d w answer
  /-- If no rows were added, and there were as many complete cycles as attempts were left at first,
  every row is processed or has used up its attempts, and nothing is fetched. -/
  drained : w.store.messages.length = v.store.messages.length →
    v.store.attemptsLeft m ≤ answers.countP complete →
    (∀ x ∈ w.store.messages, x.isPending = false ∨ m ≤ x.retryCount) ∧
      ∀ limit, w.store.faults.fetch = none →
        (Store.fetch limit (some m)).run w.store = (.ok (.ok []), w.store)
  /-- Every row was attempted at most as often as the limit allows. -/
  bounded : ∀ x ∈ w.store.messages, (attempts.map Message.id).count x.id ≤ m.toNat
  /-- What was published is what the attempted rows are read into. -/
  published : Notes d → w.log = v.log ++ attempts.filterMap (eventOf d)

/-- From a sound store, the next cycle answers and uses up attempts. -/
theorem Cutoff.lowers (hd : Cutoff m d) (hs : w.store.Sound) : ∃ answer, Lowers m d w answer := by
  obtain ⟨⟨answer, hrun, hanswered⟩, hspending⟩ := hd.cycle hs
  refine ⟨answer, hrun, ?_, ?_, ?_⟩
  · intro hvalid hunarmed
    have hfetch := hd.serves.fetchBatch_unarmed hunarmed
    rw [← hd.limited]
    -- the configuration is valid and no fault is armed, so the cycle fetched
    cases hanswered with
    | invalid p problem => simp [hvalid] at problem
    | unfetched f _ failed => simp [hfetch] at failed
    | reported r _ fetch fetched =>
      exact ⟨r, rfl, by rw [fetched, hd.serves.batch_of_fetch fetch]⟩
  · rintro r rfl hcancelled
    exact hd.fetched_lowers hs hrun hcancelled
  · exact hspending.rows.imp fun _ _ hspent => ⟨hspent.sameEvent, hspent.retries⟩

/-- When attempts are limited, the outbox drains: every cycle that nobody stops uses up an attempt
of every row that it fetches, whatever publishing and marking answer. -/
theorem outbox_drains (hd : Cutoff m d) (hv : v.store.Reachable)
    (hrun : Dispatching d v answers attempts w) : Drains m d v answers attempts w := by
  have hmetered := hrun.metered hd hv.sound
  constructor
  -- a run leaves a sound store, from which the next cycle starts
  case next => exact hd.lowers hmetered.sound
  case drained =>
    intro hsame henough
    -- as many complete cycles as there were attempts used them all up
    have hnone : w.store.attemptsLeft m = 0 := by
      have hleft := hmetered.left hsame
      omega
    have hempty := Store.attemptsLeft_eq_zero_iff.mp hnone
    constructor
    · intro x hx
      by_cases hpending : x.isPending = true
      · right
        -- otherwise it would be eligible
        by_contra hlimit
        have heligible : x ∈ w.store.eligible (some m) :=
          Store.mem_eligible_iff.mpr ⟨hx, hpending, decide_eq_false hlimit⟩
        rw [hempty] at heligible
        cases heligible
      · exact .inl (Bool.eq_false_iff.mpr hpending)
    · intro limit hunarmed
      rw [Store.fetch_run, hunarmed, hempty, List.take_nil]
  case bounded =>
    intro x hx
    exact Nat.le_of_add_right_le (hmetered.each x hx)
  case published => exact fun hnotes => hrun.log hd.serves hnotes

/-- The courier with a bus that refuses the first event, who tries each row twice. -/
private def persistent : Dispatcher Shop.Desk Shop.Kind :=
  { Shop.courier {} with
    config := { maxAttempts := some 2 }
    publish := fun e => Action.step fun w =>
      (if w.rest = 0 then .error (.plain .publishFailed "queue full") else .ok (),
        { w with log := w.log ++ [e], rest := w.rest + 1 }) }

private theorem cutoff_persistent : Cutoff 2 persistent where
  serves := ⟨rfl, fun _ => ⟨id, rfl⟩⟩
  limited := rfl
  publish := fun _ _ => ⟨rfl, rfl⟩

/-- A row, and a fault that waits for its mark. -/
private def stocked : Shop.Desk :=
  let rows := (Message.ofEvent (Shop.created 1) "Item" "7" (Uuid.ofNat 9) Shop.opening).toOption
  let changes := { transactionId := Uuid.ofNat 9, messages := rows.toList }
  let store := ((Store.commit changes).run {}).2
  { Shop.desk with store := store.failNextMark (.plain .databaseError "connection lost") }

private theorem reachable_stocked : stocked.store.Reachable :=
  (Store.Reachable.empty.commit _).failNextMark _

private def refused : Except Failure DispatchReport :=
  .ok { fetched := 1, failed := 1 }

/-- The event is refused, then the row cannot be marked, and it is given up after two attempts. -/
theorem given_up_after_two_attempts : ∃ attempts w,
    Dispatching persistent stocked [refused, refused] attempts w ∧
    (∀ x ∈ w.store.messages, x.isPending = false ∨ 2 ≤ x.retryCount) ∧
    w.log.map Event.id = [Uuid.ofNat 1, Uuid.ofNat 1] ∧ w.store.pendingCount = 1 := by
  have hfirst : Dispatching persistent stocked [refused] _ _ :=
    Dispatching.start.cycle (by decide +kernel)
  have hrun : Dispatching persistent stocked [refused, refused] _ _ :=
    hfirst.cycle (by decide +kernel)
  have hdrains := outbox_drains cutoff_persistent reachable_stocked hrun
  refine ⟨_, _, hrun, (hdrains.drained (by decide +kernel) (by decide +kernel)).1, ?_, ?_⟩
  · decide +kernel
  · decide +kernel

end Service

end EventOutbox
