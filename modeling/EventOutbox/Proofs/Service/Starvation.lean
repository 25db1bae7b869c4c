import EventOutbox.Proofs.Service.Conservation
import EventOutbox.Proofs.Store.Order

/-!
# Rows that wait behind others

A cycle fetches the oldest pending rows, and a row that fails keeps its place among them.  So it is
the rows before a row that decide when it is delivered.  If fewer of them than a batch holds can
fail, every batch has room for a row that succeeds: that row leaves the queue, and the row at hand
moves up.  If as many of them as a batch holds never succeed, they fill every batch, and the row at
hand is never reached.

## Main statements

- `Service.processed_in_time`: a row behind fewer failing rows than a batch holds is processed after
  at most as many cycles as rows are pending.
- `Service.never_reached`: a row behind a batch of rows that never succeed stays as it is.
-/

namespace EventOutbox.Service

variable {κ ι E : Type} [EventCatalog κ] {d : Dispatcher (Service κ ι E) κ}

/-! ## §1 Cycles that nothing disturbs -/

/-- The outbox rows and the armed faults are the same. -/
structure SameOutbox (w w' : Service κ ι E) : Prop where
  outbox : w'.store.outbox = w.store.outbox
  nextSeq : w'.store.nextSeq = w.store.nextSeq
  faults : w'.store.faults = w.store.faults

/-- A dispatcher with a valid configuration and unlimited attempts that nobody stops, and whose
publishing always answers and adds no rows. -/
structure Undisturbed (d : Dispatcher (Service κ ι E) κ) : Prop where
  serves : Serves d
  valid : d.config.problem? = none
  unlimited : d.config.maxAttempts = none
  uncancelled : ∀ w, d.cancelled w = false
  publish : ∀ e w, (d.publish e).Ensures w (fun _ w' => SameOutbox w w') fun _ => False

/-- The row can be read, and its event is always published successfully. -/
def Deliverable (d : Dispatcher (Service κ ι E) κ) (m : Message) : Prop :=
  ∃ e, d.registry.decode m.eventType m.payload = .ok e ∧
    ∀ w, ((d.publish e).run w).1 = .ok (.ok ())

/-- The row cannot be read, or its event is never published successfully. -/
def Stuck (d : Dispatcher (Service κ ι E) κ) (m : Message) : Prop :=
  ∀ e, d.registry.decode m.eventType m.payload = .ok e →
    ∀ w, ((d.publish e).run w).1 ≠ .ok (.ok ())

/-- The store is sound, as runs leave it, no fault is armed, and the failure counts of pending rows
have room for a number of cycles. -/
structure Clear (n : Nat) (w : Service κ ι E) : Prop where
  sound : w.store.Sound
  fetch : w.store.faults.fetch = none
  mark : w.store.faults.markProcessed = none
  room : ∀ m ∈ w.store.messages, m.isPending = true → m.retryCount.toNat + n < UInt32.size

/-- The rows that the next cycle visits. -/
def nextBatch (d : Dispatcher (Service κ ι E) κ) (w : Service κ ι E) : List Message :=
  (w.store.eligible d.config.maxAttempts).take d.config.batchSize.toNat

/-- The service after a number of cycles, with nothing in between. -/
def afterCycles (d : Dispatcher (Service κ ι E) κ) : Nat → Service κ ι E → Service κ ι E
  | 0, w => w
  | n + 1, w => afterCycles d n (d.dispatchOnce.run w).2

/-- Whether a row is deliverable does not depend on its delivery state. -/
theorem Deliverable.sameEvent {m m' : Message} (h : Deliverable d m) (hsame : m.SameEvent m') :
    Deliverable d m' := by
  obtain ⟨e, hdecode, hpublish⟩ := h
  refine ⟨e, ?_, hpublish⟩
  rw [hsame.eventType, hsame.payload]
  exact hdecode

/-- Nor does whether it is stuck. -/
theorem Stuck.sameEvent {m m' : Message} (h : Stuck d m) (hsame : m.SameEvent m') :
    Stuck d m' := by
  intro e hdecode
  rw [hsame.eventType, hsame.payload] at hdecode
  exact h e hdecode

/-- Unlimited attempts are never used up. -/
theorem Undisturbed.unexhausted (hd : Undisturbed d) (m : Message) :
    m.attemptsExhausted d.config.maxAttempts = false := by
  rw [hd.unlimited]
  rfl

/-- What the next cycle visits is stored and pending. -/
theorem mem_nextBatch {w : Service κ ι E} {m : Message} (hm : m ∈ nextBatch d w) :
    m ∈ w.store.messages ∧ m.isPending = true := by
  have heligible := Store.mem_eligible_iff.mp (List.mem_of_mem_take hm)
  exact ⟨heligible.1, heligible.2.1⟩

/-- The next cycle visits no row twice. -/
theorem nodup_nextBatch (d : Dispatcher (Service κ ι E) κ) {w : Service κ ι E}
    (hs : w.store.Sound) : ((nextBatch d w).map Message.id).Nodup := by
  rw [nextBatch, List.map_take]
  exact (hs.nodup_eligible _).sublist (List.take_sublist _ _)

/-! ## §2 What one cycle does to each row -/

/-- What a cycle that has visited the given rows made of a row. -/
structure Treated (d : Dispatcher (Service κ ι E) κ) (visited : List Uuid)
    (r r' : Nat × Message) : Prop where
  number : r'.1 = r.1
  sameEvent : r.2.SameEvent r'.2
  unvisited : r.2.id ∉ visited → r' = r
  tries : r'.2.retryCount.toNat ≤ r.2.retryCount.toNat + 1
  processed : r.2.isPending = false → r'.2.isPending = false
  deliverable : r.2.id ∈ visited → Deliverable d r.2 → r'.2.isPending = false
  stuck : r.2.isPending = true → Stuck d r.2 → r'.2.isPending = true

/-- A cycle that begins has treated every row, by leaving it as it is. -/
theorem treated_self (r : Nat × Message) : Treated d [] r r where
  number := rfl
  sameEvent := .refl r.2
  unvisited := fun _ => rfl
  tries := Nat.le_succ _
  processed := id
  deliverable := fun h => by simp at h
  stuck := fun h _ => h

/-- No treatment makes a processed row pending again. -/
theorem Treated.pending {ids : List Uuid} {x x' : Nat × Message} (h : Treated d ids x x')
    (hpending : x'.2.isPending = true) : x.2.isPending = true := by
  by_contra hdone
  rw [Bool.not_eq_true] at hdone
  rw [h.processed hdone] at hpending
  cases hpending

/-- In the midst of a cycle that began at `w`, every row was treated as the visited rows tell. -/
structure Underway (d : Dispatcher (Service κ ι E) κ) (w : Service κ ι E) (visited : List Message)
    (v : Service κ ι E) : Prop where
  sound : v.store.Sound
  fetch : v.store.faults.fetch = none
  mark : v.store.faults.markProcessed = none
  rows : List.Forall₂ (Treated d (visited.map Message.id)) w.store.outbox v.store.outbox

variable {w v v' : Service κ ι E} {visited : List Message}

/-- A cycle begins without visits. -/
theorem Clear.begin {n : Nat} (hw : Clear n w) : Underway d w [] w :=
  ⟨hw.sound, hw.fetch, hw.mark, List.forall₂_same.mpr fun r _ => treated_self r⟩

/-- Where outbox and faults are the same, the cycle is as far as it was. -/
theorem Underway.same (h : Underway d w visited v) (hsame : SameOutbox v v') :
    Underway d w visited v' := by
  obtain ⟨houtbox, hnextSeq, hfaults⟩ := hsame
  refine ⟨h.sound.congr houtbox hnextSeq, ?_, ?_, ?_⟩
  · rw [hfaults]
    exact h.fetch
  · rw [hfaults]
    exact h.mark
  · rw [houtbox]
    exact h.rows

/-- A row that was not visited yet is stored as it was. -/
theorem Underway.waiting (h : Underway d w visited v) {m : Message} (hm : m ∈ w.store.messages)
    (hnew : m.id ∉ visited.map Message.id) : m ∈ v.store.messages := by
  obtain ⟨r, hr, rfl⟩ := List.mem_map.mp hm
  obtain ⟨r', hr', htreated⟩ := exists_right_of_forall₂ h.rows hr
  obtain rfl := htreated.unvisited hnew
  exact List.mem_map_of_mem hr'

/-- The cycle visits one more row and changes its delivery state. -/
theorem Underway.visit (h : Underway d w visited v) (hs : w.store.Sound) {m : Message}
    (hm : m ∈ w.store.messages) (hpending : m.isPending = true)
    (hnew : m.id ∉ visited.map Message.id) {f : Message → Message}
    (sameEvent : ∀ m' : Message, m'.SameEvent (f m'))
    (tries : (f m).retryCount.toNat ≤ m.retryCount.toNat + 1)
    (deliverable : Deliverable d m → (f m).isPending = false)
    (stuck : Stuck d m → (f m).isPending = true) (hstore : v'.store = v.store.change m.id f) :
    Underway d w (visited ++ [m]) v' := by
  constructor
  case sound =>
    rw [hstore]
    exact h.sound.change m.id fun m => (sameEvent m).id
  case fetch =>
    rw [hstore]
    exact h.fetch
  case mark =>
    rw [hstore]
    exact h.mark
  case rows =>
    have houtbox : v'.store.outbox =
        v.store.outbox.map fun r => if r.2.id = m.id then (r.1, f r.2) else r := by
      rw [hstore]
      exact Store.changeMessage_eq_map m.id f h.sound.ids_nodup
    rw [houtbox]
    refine forall₂_map_of_mem h.rows fun r hr r' ht => ?_
    have hid := ht.sameEvent.id
    simp only [List.map_append, List.map_cons, List.map_nil]
    by_cases hrm : r.2.id = m.id
    · -- this is the row at hand, which was not visited before
      have hrm' : r.2 = m := hs.eq_of_id_eq (List.mem_map_of_mem hr) hm hrm
      obtain rfl := ht.unvisited (hrm ▸ hnew)
      rw [if_pos hrm]
      subst hrm'
      constructor
      case number => rfl
      case sameEvent => exact sameEvent r'.2
      case unvisited => exact fun hnot => absurd (List.mem_append_right _ List.mem_cons_self) hnot
      case tries => exact tries
      case processed => exact fun hdone => by simp [hpending] at hdone
      case deliverable => exact fun _ => deliverable
      case stuck => exact fun _ => stuck
    · -- any other row stays as the cycle made it so far
      have hother : r.2.id ∈ visited.map Message.id ++ [m.id] ↔
          r.2.id ∈ visited.map Message.id := by simp [hrm]
      rw [if_neg (by rw [hid]; exact hrm)]
      -- what the other visited rows are promised does not mention the row at hand
      refine ⟨ht.number, ht.sameEvent, ?_, ht.tries, ht.processed, ?_, ht.stuck⟩
      · rw [hother]
        exact ht.unvisited
      · rw [hother]
        exact ht.deliverable

/-- A failed attempt visits a row that is not deliverable. -/
theorem Underway.fails (hd : Undisturbed d) (h : Underway d w visited v) (hw : Clear 1 w)
    {m : Message} (hm : m ∈ w.store.messages) (hpending : m.isPending = true)
    (hnew : m.id ∉ visited.map Message.id) (hnot : ¬ Deliverable d m) (f : Failure)
    (outcome : RowOutcome) : (d.recordFailure m f outcome).Ensures v
      (fun _ v' => Underway d w (visited ++ [m]) v') fun _ => False := by
  -- the counter has room, so the failure is counted and the run goes on
  have hroom := hw.room m hm hpending
  rw [Dispatcher.recordFailure_ensures, hd.serves.outbox]
  refine Action.ensures_of_run_ok
    (outbox_recordFailure_run h.sound (h.waiting hm hnew) f.text hroom) ?_
  apply h.visit hw.sound hm hpending hnew (Message.sameEvent_failed f.text)
  · exact Nat.le_of_eq (Message.retryCount_failed hroom f.text)
  · exact fun hdeliverable => absurd hdeliverable hnot
  · exact fun _ => hpending
  · rfl

/-- A mark visits a row that is not stuck. -/
theorem Underway.marks (hd : Undisturbed d) (h : Underway d w visited v) (hw : Clear 1 w)
    {m : Message} (hm : m ∈ w.store.messages) (hpending : m.isPending = true)
    (hnew : m.id ∉ visited.map Message.id) (hnot : ¬ Stuck d m) (at_ : Instant) :
    (d.outbox.markProcessed m.id at_).Ensures v
      (fun answer v' => answer = .ok () ∧ Underway d w (visited ++ [m]) v') fun _ => False := by
  have hmarked : m.marked at_ = m.markProcessed at_ := if_pos hpending
  have hrun := outbox_markProcessed_eq h.sound (h.waiting hm hnew) at_
  -- no fault is armed, so the mark succeeds
  rw [h.mark] at hrun
  rw [hd.serves.outbox]
  refine Action.ensures_of_run_ok hrun ⟨rfl, ?_⟩
  apply h.visit hw.sound hm hpending hnew (Message.sameEvent_marked at_)
  · rw [hmarked]
    exact Nat.le_succ _
  · rw [hmarked]
    exact fun _ => rfl
  · exact fun hstuck => absurd hstuck hnot
  · rfl

/-- Visiting a row treats it as it deserves: a deliverable one is processed, and a stuck one still
waits. -/
theorem Underway.dispatchRow (hd : Undisturbed d) (h : Underway d w visited v) (hw : Clear 1 w)
    {m : Message} (hm : m ∈ w.store.messages) (hpending : m.isPending = true)
    (hnew : m.id ∉ visited.map Message.id) : (d.dispatchRow m).Ensures v
      (fun _ v' => Underway d w (visited ++ [m]) v') fun _ => False := by
  apply Dispatcher.dispatchRow_ensures
  · -- a row that cannot be read is not deliverable
    intro cause hdecode
    refine h.fails hd hw hm hpending hnew ?_ cause.failure .skipped
    rintro ⟨e, he, -⟩
    rw [hdecode] at he
    cases he
  · intro e hdecode
    refine (hd.publish e v).with_run.mono (fun answer v₁ ⟨hrun, hsame⟩ => ?_) fun _ hfalse => hfalse
    have h₁ := h.same hsame
    rcases answer with f | _
    · -- a deliverable row would have been published
      refine h₁.fails hd hw hm hpending hnew ?_ f .failed
      rintro ⟨e', he', hpublish⟩
      have heq : e = e' := by simpa only [hdecode, Except.ok.injEq] using he'
      have hok := hpublish v
      rw [← heq, hrun] at hok
      cases hok
    · -- a stuck row would not
      have hnot : ¬ Stuck d m := fun hstuck => hstuck e hdecode v (by rw [hrun])
      refine (h₁.marks hd hw hm hpending hnew hnot (d.clock v₁)).mono
        (fun mark v₂ ⟨hmark, hdone⟩ => ?_) fun _ hfalse => hfalse
      subst hmark
      exact hdone

/-- A cycle visits the next batch and nothing else. -/
theorem Undisturbed.cycle (hd : Undisturbed d) (hw : Clear 1 w) :
    Underway d w (nextBatch d w) (d.dispatchOnce.run w).2 := by
  have hnodup := nodup_nextBatch d hw.sound
  have hcycle : d.dispatchOnce.Ensures w
      (fun answer v => ∃ r, answer = .ok r ∧ Underway d w (nextBatch d w) v) fun _ => False := by
    apply Dispatcher.dispatchOnce_ensures_all (I := fun _ visited v => Underway d w visited v)
      hd.valid fun _ _ v _ => hd.uncancelled v
    case fetch =>
      obtain ⟨display, hphase⟩ := hd.serves.setPhase .polling
      refine Action.ensures_of_run_ok (hd.serves.fetchBatch_unarmed hw.fetch) ⟨rfl, ?_⟩
      rw [hphase]
      exact hw.begin.same ⟨rfl, rfl, rfl⟩
    case phase =>
      intro p _ visited v h
      obtain ⟨display, hphase⟩ := hd.serves.setPhase p
      rw [hphase, Action.ensures_update]
      exact h.same ⟨rfl, rfl, rfl⟩
    case row =>
      intro _ visited m rest v hbatch h
      have hm : m ∈ nextBatch d w := by
        rw [hbatch]
        exact List.mem_append_right _ List.mem_cons_self
      obtain ⟨hm, hpending⟩ := mem_nextBatch hm
      -- the batch holds no row twice
      rw [hbatch] at hnodup
      exact h.dispatchRow hd hw hm hpending (Message.id_notMem_of_nodup hnodup List.mem_cons_self)
  obtain ⟨_, _, _, _, h⟩ := hcycle.exists_answer
  exact h

/-- After a cycle, nothing hinders the remaining ones. -/
theorem Underway.clear {n : Nat} (h : Underway d w visited v) (hw : Clear (n + 1) w) :
    Clear n v := by
  refine ⟨h.sound, h.fetch, h.mark, fun m' hm' hpending' => ?_⟩
  obtain ⟨r', hr', rfl⟩ := List.mem_map.mp hm'
  obtain ⟨r, hr, ht⟩ := exists_left_of_forall₂ h.rows hr'
  -- the row was pending before, and has failed at most once more
  have hroom := hw.room r.2 (List.mem_map_of_mem hr) (ht.pending hpending')
  have htries := ht.tries
  omega

/-- Room for some cycles is room for fewer. -/
theorem Clear.mono {n k : Nat} (hw : Clear n w) (hk : k ≤ n) : Clear k w :=
  ⟨hw.sound, hw.fetch, hw.mark, fun m hm hpending =>
    Nat.lt_of_le_of_lt (Nat.add_le_add_left hk _) (hw.room m hm hpending)⟩

/-- Nothing comes to hinder the cycles as long as there is room for them. -/
theorem Clear.afterCycles (hd : Undisturbed d) {n : Nat} (hw : Clear n w) :
    Clear 0 (afterCycles d n w) := by
  induction n generalizing w with
  | zero => exact hw
  | succ n ih => exact ih ((hd.cycle (hw.mono (Nat.le_add_left 1 n))).clear hw)

/-! ## §3 Moving up -/

/-- The pending rows that stand before a row. -/
def ahead (w : Service κ ι E) (r : Nat × Message) : List (Nat × Message) :=
  w.store.outbox.filter fun x => x.2.isPending && Store.standsBefore x r

/-- Membership in the rows ahead, spelled out. -/
theorem mem_ahead_iff {r x : Nat × Message} :
    x ∈ ahead w r ↔ x ∈ w.store.outbox ∧ x.2.isPending = true ∧ Store.standsBefore x r = true := by
  rw [ahead, List.mem_filter, Bool.and_eq_true]

/-- Fewer rows stand before a pending row than are pending. -/
theorem length_ahead_lt_pendingCount {r : Nat × Message} (hr : r ∈ w.store.outbox)
    (hpending : r.2.isPending = true) : (ahead w r).length < w.store.pendingCount := by
  -- the row itself is pending, but does not stand before itself
  have hself : Store.standsBefore r r = false := by
    rw [Bool.eq_false_iff, ne_eq, Store.standsBefore_iff]
    exact fun h => h.2 rfl
  have hahead : ahead w r =
      (w.store.outbox.filter (·.2.isPending)).filter (Store.standsBefore · r) := by
    rw [List.filter_filter, ahead]
    exact List.filter_congr fun x _ => Bool.and_comm _ _
  rw [hahead, Store.pendingCount, List.countP_eq_length_filter]
  apply List.length_filter_lt_length_iff_exists.mpr
  exact ⟨r, List.mem_filter.mpr ⟨hr, hpending⟩, by simp [hself]⟩

/-- Where a treated row stands does not change. -/
theorem Treated.standsBefore {ids : List Uuid} {x x' r : Nat × Message} (h : Treated d ids x x') :
    Store.standsBefore x' r = Store.standsBefore x r := by
  rw [Store.standsBefore, Store.standsBefore,
    Store.fetchedBefore_congr h.number h.sameEvent rfl (.refl r.2), h.number]

/-- What stands before a row after a cycle stood there before. -/
theorem Underway.exists_ahead (h : Underway d w visited v) {r x' : Nat × Message}
    (hx' : x' ∈ ahead v r) : ∃ x ∈ ahead w r, Treated d (visited.map Message.id) x x' := by
  obtain ⟨hmem, hpending, hbefore⟩ := mem_ahead_iff.mp hx'
  obtain ⟨x, hx, ht⟩ := exists_left_of_forall₂ h.rows hmem
  rw [ht.standsBefore] at hbefore
  exact ⟨x, mem_ahead_iff.mpr ⟨hx, ht.pending hpending, hbefore⟩, ht⟩

/-- A batch that leaves a row out holds as many rows as it can, all of them before that row. -/
theorem visited_or_behind (hd : Undisturbed d) (hs : w.store.Sound) {r : Nat × Message}
    (hr : r ∈ w.store.outbox) (hpending : r.2.isPending = true) :
    r.2 ∈ nextBatch d w ∨ r.2.id ∉ (nextBatch d w).map Message.id ∧
      (nextBatch d w).length = d.config.batchSize.toNat ∧
        ∀ m ∈ nextBatch d w, ∃ x ∈ ahead w r, x.2 = m := by
  -- attempts are unlimited, so a pending row is eligible
  have heligible := Store.mem_eligibleRows_iff.mpr ⟨hr, hpending, hd.unexhausted r.2⟩
  by_cases hbatch : r.2 ∈ nextBatch d w
  · exact .inl hbatch
  · right
    obtain ⟨hlength, hbehind⟩ :=
      (Store.fetched_or_behind hs heligible d.config.batchSize.toNat).resolve_left hbatch
    refine ⟨fun hid => ?_, hlength, fun m hm => ?_⟩
    · -- a row of the same identifier would be the row itself
      obtain ⟨m, hm, hid⟩ := List.mem_map.mp hid
      have hrm := hs.eq_of_id_eq (mem_nextBatch hm).1 (List.mem_map_of_mem hr) hid
      exact hbatch (hrm ▸ hm)
    · obtain ⟨x, hx, hxm, hbefore⟩ := hbehind m hm
      obtain ⟨hmem, hwaits, -⟩ := Store.mem_eligibleRows_iff.mp hx
      exact ⟨x, mem_ahead_iff.mpr ⟨hmem, hwaits, hbefore⟩, hxm⟩

/-- Of a full batch, a row is not among fewer given ones. -/
theorem exists_not_mem_of_length_lt {batch : List Message} (hnodup : (batch.map Message.id).Nodup)
    {ids : List Uuid} (hlt : ids.length < batch.length) : ∃ m ∈ batch, m.id ∉ ids := by
  by_contra hall
  -- otherwise the batch would fit among the given ones, without repetitions
  push Not at hall
  have hsubset : batch.map Message.id ⊆ ids := by
    intro id hid
    obtain ⟨m, hm, rfl⟩ := List.mem_map.mp hid
    exact hall m hm
  have hle := (hnodup.subperm hsubset).length_le
  rw [List.length_map] at hle
  omega

/-- The row is processed, or it waits behind fewer rows than there are cycles to come, and of these
rows only the given ones may fail. -/
inductive Due (d : Dispatcher (Service κ ι E) κ) (r : Nat × Message) (failing : List Uuid) (n : Nat)
    (w : Service κ ι E) : Prop where
  | processed (m : Message) (stored : m ∈ w.store.messages) (sameId : m.id = r.2.id)
      (done : m.isPending = false) : Due d r failing n w
  | waiting (stored : r ∈ w.store.outbox) (pending : r.2.isPending = true)
      (near : (ahead w r).length < n)
      (others : ∀ x ∈ ahead w r, x.2.id ∈ failing ∨ Deliverable d x.2) : Due d r failing n w

/-- A cycle delivers the row, or another one before it. -/
theorem Due.cycle (hd : Undisturbed d) {n : Nat} (hw : Clear (n + 1) w) {r : Nat × Message}
    (hgood : Deliverable d r.2) {failing : List Uuid}
    (hfew : failing.length < d.config.batchSize.toNat) (h : Due d r failing (n + 1) w) :
    Due d r failing n (d.dispatchOnce.run w).2 := by
  have hcycle := hd.cycle (hw.mono (Nat.le_add_left 1 n))
  cases h with
  | processed m stored sameId done =>
    -- what is processed stays processed
    obtain ⟨x, hx, rfl⟩ := List.mem_map.mp stored
    obtain ⟨x', hx', ht⟩ := exists_right_of_forall₂ hcycle.rows hx
    exact .processed x'.2 (List.mem_map_of_mem hx') (ht.sameEvent.id.trans sameId)
      (ht.processed done)
  | waiting stored pending near others =>
    obtain ⟨r', hr', ht⟩ := exists_right_of_forall₂ hcycle.rows stored
    -- the batch contains the row, or is full of rows before it
    rcases visited_or_behind hd hw.sound stored pending with hbatch | ⟨hout, hfull, hbehind⟩
    · exact .processed r'.2 (List.mem_map_of_mem hr') ht.sameEvent.id
        (ht.deliverable (List.mem_map_of_mem hbatch) hgood)
    · -- some row of the batch is deliverable, and no longer pending after the cycle
      obtain ⟨m, hm, hnot⟩ :=
        exists_not_mem_of_length_lt (nodup_nextBatch d hw.sound) (hfull ▸ hfew)
      obtain ⟨x, hx, rfl⟩ := hbehind m hm
      have hdeliverable := (others x hx).resolve_left hnot
      obtain ⟨hmem, hwaits, hbefore⟩ := mem_ahead_iff.mp hx
      have hshorter : (ahead (d.dispatchOnce.run w).2 r).length < (ahead w r).length := by
        refine length_filter_lt_of_forall₂ hcycle.rows (fun y y' hy hsel => ?_) hmem
          (by simp [hwaits, hbefore]) fun x' hx' => ?_
        · -- nothing moves before the row that was not there already
          rw [Bool.and_eq_true] at hsel ⊢
          rw [hy.standsBefore] at hsel
          exact ⟨hy.pending hsel.1, hsel.2⟩
        · -- the delivered one does not stand before the row any more
          rw [hx'.deliverable (List.mem_map_of_mem hm) hdeliverable, Bool.false_and]
      refine .waiting ?_ pending (by omega) fun x' hx' => ?_
      · rw [← ht.unvisited hout]
        exact hr'
      · obtain ⟨y, hy, hty⟩ := hcycle.exists_ahead hx'
        rw [hty.sameEvent.id]
        exact (others y hy).imp_right fun hdel => hdel.sameEvent hty.sameEvent

/-- A row that is due is processed when its cycles are over. -/
theorem Due.afterCycles (hd : Undisturbed d) {n : Nat} (hw : Clear n w) {r : Nat × Message}
    (hgood : Deliverable d r.2) {failing : List Uuid}
    (hfew : failing.length < d.config.batchSize.toNat) (h : Due d r failing n w) :
    Due d r failing 0 (afterCycles d n w) := by
  -- on the cycles to come: each leaves the row due within the remaining ones
  induction n generalizing w with
  | zero => exact h
  | succ n ih =>
    have hcycle := hd.cycle (hw.mono (Nat.le_add_left 1 n))
    exact ih (hcycle.clear hw) (h.cycle hd hw hgood hfew)

/-- A pending row that is deliverable is processed after at most as many cycles as rows are pending,
if of the pending rows before it fewer than a batch holds are not deliverable. -/
theorem processed_in_time (hd : Undisturbed d) (hw : Clear w.store.pendingCount w)
    {r : Nat × Message} (stored : r ∈ w.store.outbox) (pending : r.2.isPending = true)
    (deliverable : Deliverable d r.2) {failing : List Uuid}
    (few : failing.length < d.config.batchSize.toNat)
    (others : ∀ x ∈ ahead w r, x.2.id ∈ failing ∨ Deliverable d x.2) :
    ∃ m ∈ (afterCycles d w.store.pendingCount w).store.messages,
      m.id = r.2.id ∧ m.isPending = false := by
  have hdue : Due d r failing w.store.pendingCount w :=
    .waiting stored pending (length_ahead_lt_pendingCount stored pending) others
  cases hdue.afterCycles hd hw deliverable few with
  | processed m stored sameId done => exact ⟨m, stored, sameId, done⟩
  | waiting _ _ near _ =>
    -- no number of rows is below zero
    exact absurd near (Nat.not_lt_zero _)

/-- The courier with batches of a given size. -/
private def clerk (n : UInt32) : Dispatcher Shop.Desk Shop.Kind :=
  { Shop.courier {} with config := { batchSize := n } }

private theorem undisturbed_clerk {n : UInt32} (hn : n ≠ 0) : Undisturbed (clerk n) where
  serves := ⟨rfl, fun _ => ⟨id, rfl⟩⟩
  valid := DispatcherConfig.problem?_of_batchSize (c := {}) (by decide) hn
  unlimited := rfl
  uncancelled := fun _ => rfl
  publish := fun _ _ => ⟨rfl, rfl, rfl⟩

/-- An event of which the clerk does not know the type, and behind it one that it knows. -/
private def backlog : Shop.Desk :=
  let renamed := (Shop.desk.raise true (Shop.renamed 1)).commit [(true, .added)] Shop.purchase
  (renamed.raise false (Shop.created 2)).commit [(false, .added)] Shop.purchase

private theorem run_backlog : Run Moves (· = clerk 1) [] backlog := by
  have hstart : Run Moves (· = clerk 1) [] Shop.desk := .start Shop.fresh_desk
  have hfirst := (hstart.move (.single (.raise true (Shop.renamed 1) (by decide)))).move
    (.single (.commit [(true, .added)] Shop.purchase (by decide)))
  exact (hfirst.move (.single (.raise false (Shop.created 2) (by decide +kernel)))).move
    (.single (.commit [(false, .added)] Shop.purchase (by decide)))

private theorem clear_backlog : Clear 2 backlog where
  sound := by
    refine (conserving_of_run ?_ run_backlog).sound
    rintro d rfl e w
    exact .single (.elsewhere rfl rfl rfl)
  fetch := by decide +kernel
  mark := by decide +kernel
  room := by decide +kernel

private theorem deliverable_of_isSome {n : UInt32} {m : Message}
    (h : ((clerk n).registry.decode m.eventType m.payload).toOption.isSome = true) :
    Deliverable (clerk n) m := by
  cases hdecode : (clerk n).registry.decode m.eventType m.payload with
  | error cause =>
    rw [hdecode] at h
    cases h
  | ok e => exact ⟨e, hdecode, fun _ => rfl⟩

private theorem length_backlog : backlog.store.outbox.length = 2 := by decide +kernel

private def first : Nat × Message :=
  backlog.store.outbox.get ⟨0, by rw [length_backlog]; decide⟩

private theorem stuck_first : Stuck (clerk 1) first.2 := by
  intro e hdecode
  have hnone : ((clerk 1).registry.decode first.2.eventType first.2.payload).toOption = none := by
    decide +kernel
  rw [hdecode] at hnone
  cases hnone

/-- The row of the known event. -/
private def second : Nat × Message :=
  backlog.store.outbox.get ⟨1, by rw [length_backlog]; decide⟩

/-- With batches of two rows, the second row is processed in time. -/
theorem processed_behind_stuck_row :
    second ∈ backlog.store.outbox ∧ second.2.isPending = true ∧
    ∃ m ∈ (afterCycles (clerk 2) backlog.store.pendingCount backlog).store.messages,
      m.id = second.2.id ∧ m.isPending = false := by
  have hpending : backlog.store.pendingCount = 2 := by decide +kernel
  refine ⟨List.get_mem _ _, by decide +kernel, ?_⟩
  refine processed_in_time (undisturbed_clerk (by decide)) ?_ (List.get_mem _ _)
    (by decide +kernel) (deliverable_of_isSome (by decide +kernel))
    (show [Uuid.ofNat 1].length < _ by decide) fun x hx => .inl ?_
  · rw [hpending]
    exact clear_backlog
  · revert x
    decide +kernel

/-! ## §4 Never moving up -/

/-- As many rows as a batch holds stand before the row and never succeed. -/
def Blocked (d : Dispatcher (Service κ ι E) κ) (r : Nat × Message) (ids : List Uuid)
    (w : Service κ ι E) : Prop :=
  ∀ id ∈ ids, ∃ x ∈ ahead w r, x.2.id = id ∧ Stuck d x.2

theorem Blocked.cycle (hd : Undisturbed d) (hw : Clear 1 w) {r : Nat × Message}
    (hr : r ∈ w.store.outbox) {ids : List Uuid} (hnodup : ids.Nodup)
    (hfull : ids.length = d.config.batchSize.toNat) (h : Blocked d r ids w) :
    r ∈ (d.dispatchOnce.run w).2.store.outbox ∧ Blocked d r ids (d.dispatchOnce.run w).2 := by
  have hcycle := hd.cycle hw
  constructor
  · -- the batch is full before the row
    have hout : r.2.id ∉ (nextBatch d w).map Message.id := by
      rw [nextBatch, ← hfull]
      refine Store.not_fetched_of_full hw.sound hr hnodup fun id hid => ?_
      obtain ⟨x, hx, hxid, -⟩ := h id hid
      obtain ⟨hmem, hwaits, hbefore⟩ := mem_ahead_iff.mp hx
      have heligible := Store.mem_eligibleRows_iff.mpr ⟨hmem, hwaits, hd.unexhausted x.2⟩
      exact ⟨x, heligible, hxid, hbefore⟩
    obtain ⟨r', hr', ht⟩ := exists_right_of_forall₂ hcycle.rows hr
    rw [← ht.unvisited hout]
    exact hr'
  · -- rows that never succeed stay pending, each in its place
    intro id hid
    obtain ⟨x, hx, hxid, hstuck⟩ := h id hid
    obtain ⟨hmem, hwaits, hbefore⟩ := mem_ahead_iff.mp hx
    obtain ⟨x', hx', ht⟩ := exists_right_of_forall₂ hcycle.rows hmem
    rw [← ht.standsBefore] at hbefore
    exact ⟨x', mem_ahead_iff.mpr ⟨hx', ht.stuck hwaits hstuck, hbefore⟩,
      ht.sameEvent.id.trans hxid, hstuck.sameEvent ht.sameEvent⟩

/-- A row behind a batch of rows that never succeed stays as it is, however many cycles follow. -/
theorem never_reached (hd : Undisturbed d) {n : Nat} (hw : Clear n w) {r : Nat × Message}
    (hr : r ∈ w.store.outbox) {ids : List Uuid} (hnodup : ids.Nodup)
    (hfull : ids.length = d.config.batchSize.toNat) (h : Blocked d r ids w) :
    r ∈ (afterCycles d n w).store.outbox := by
  induction n generalizing w with
  | zero => exact hr
  | succ n ih =>
    have hone := hw.mono (Nat.le_add_left 1 n)
    obtain ⟨hstays, hblocked⟩ := h.cycle hd hone hr hnodup hfull
    exact ih ((hd.cycle hone).clear hw) hstays hblocked

/-- With batches of one row, the second row is not processed in time: the row before it cannot be
read, and is fetched again and again. -/
theorem not_processed_in_time : Run Moves (· = clerk 1) [] backlog ∧ Undisturbed (clerk 1) ∧
    Clear backlog.store.pendingCount backlog ∧ second ∈ backlog.store.outbox ∧
    second.2.isPending = true ∧ Deliverable (clerk 1) second.2 ∧
    ∀ n ≤ backlog.store.pendingCount, ¬ ∃ m ∈ (afterCycles (clerk 1) n backlog).store.messages,
      m.id = second.2.id ∧ m.isPending = false := by
  have hcount : backlog.store.pendingCount = 2 := by decide +kernel
  have hpending : second.2.isPending = true := by decide +kernel
  have hd : Undisturbed (clerk 1) := undisturbed_clerk (by decide)
  have hblocked : Blocked (clerk 1) second [Uuid.ofNat 1] backlog := by
    intro id hid
    obtain rfl := List.mem_singleton.mp hid
    exact ⟨first, by decide +kernel, by decide +kernel, stuck_first⟩
  rw [hcount]
  refine ⟨run_backlog, hd, clear_backlog, List.get_mem _ _, hpending,
    deliverable_of_isSome (by decide +kernel), fun n hn ⟨m, hm, hid, hdone⟩ => ?_⟩
  have hclear := clear_backlog.mono hn
  have hstays := never_reached hd hclear (List.get_mem _ _) (List.nodup_singleton _) rfl hblocked
  have hrow : m = second.2 :=
    (hclear.afterCycles hd).sound.eq_of_id_eq hm (List.mem_map_of_mem hstays) hid
  rw [hrow, hpending] at hdone
  cases hdone

end EventOutbox.Service
