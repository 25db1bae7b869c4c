import EventOutbox.Proofs.Service.Draining
import EventOutbox.Proofs.Service.Starvation

/-!
# Batches of any size

When nothing fails, a cycle publishes the whole batch that it fetches and marks its rows, which then
are not fetched again.  So the batches of consecutive cycles, put one after the other, are the rows
that were waiting at first, in their order, however large a batch may be.  This takes a
configuration that is not refused: with a limit of no attempts at all no row could be fetched, but
the cycles of such a dispatcher are refused and do nothing.

## Main statement

- `Service.same_events_in_any_batches`
-/

namespace EventOutbox

/-- The dispatcher with another batch size. -/
def Dispatcher.withBatchSize {W κ : Type} [EventCatalog κ] (d : Dispatcher W κ) (b : UInt32) :
    Dispatcher W κ :=
  { d with config := { d.config with batchSize := b } }

/-- Whether a row waits to be fetched. -/
def Message.waits (maxAttempts : Option UInt32) (m : Message) : Bool :=
  m.isPending && !m.attemptsExhausted maxAttempts

/-- The rows that wait are the eligible ones. -/
theorem Store.waits_iff {s : Store} (hs : s.Sound) {maxAttempts : Option UInt32}
    {r : Nat × Message} (hr : r ∈ s.outbox) :
    r.2.waits maxAttempts = true ↔ r.2.id ∈ (s.eligible maxAttempts).map Message.id := by
  have hstored : r.2 ∈ s.messages := List.mem_map_of_mem hr
  rw [Message.waits, Bool.and_eq_true, Bool.not_eq_true', List.mem_map]
  constructor
  · exact fun hwaits => ⟨r.2, mem_eligible_iff.mpr ⟨hstored, hwaits⟩, rfl⟩
  · rintro ⟨m, hm, hid⟩
    obtain ⟨hm, hwaits⟩ := mem_eligible_iff.mp hm
    rwa [← hs.eq_of_id_eq hm hstored hid]

namespace Service

variable {κ ι E : Type} [EventCatalog κ] {d : Dispatcher (Service κ ι E) κ}

/-! ## §1 When nothing fails -/

/-- An event is published successfully: it is in the log, outbox rows are as they were, and the row
may be marked. -/
structure Published (P : Service κ ι E → Prop) (e : Event κ) (v : Service κ ι E)
    (answer : Except Failure Unit) (v' : Service κ ι E) : Prop where
  answer : answer = .ok ()
  log : v'.log = v.log ++ [e]
  outbox : v'.store.outbox = v.store.outbox
  nextSeq : v'.store.nextSeq = v.store.nextSeq
  unarmed : v'.store.faults.markProcessed = none
  holds : P v'

/-- Nothing fails for a dispatcher that starts at `w`, with whatever batch size.  This may depend on
what else the service is doing: on a condition `P` that the dispatcher keeps. -/
structure Flawless (P : Service κ ι E → Prop) (d : Dispatcher (Service κ ι E) κ)
    (w : Service κ ι E) : Prop where
  serves : Serves d
  holds : P w
  phase : ∀ p v, P v → P ((d.setPhase p).run v).2
  uncancelled : ∀ v, P v → d.cancelled v = false
  fetch : ∀ v, P v → v.store.faults.fetch = none
  publish : ∀ m ∈ w.store.eligible d.config.maxAttempts, ∃ e,
    d.registry.decode m.eventType m.payload = .ok e ∧
      ∀ v, P v → (d.publish e).Ensures v (Published P e v) fun _ => False
  mark : ∀ m ∈ w.store.eligible d.config.maxAttempts, ∀ at_ v, P v → P (v.marked m.id at_)

variable {P : Service κ ι E → Prop} {w v : Service κ ι E}

/-- Nothing fails with another batch size either, since the conditions do not mention it. -/
theorem Flawless.withBatchSize (h : Flawless P d w) (b : UInt32) :
    Flawless P (d.withBatchSize b) w where
  serves := ⟨h.serves.outbox, h.serves.setPhase⟩
  holds := h.holds
  phase := h.phase
  uncancelled := h.uncancelled
  fetch := h.fetch
  publish := h.publish
  mark := h.mark

/-! ## §2 Rows that were sent -/

/-- A row before some rows were sent, and after that. -/
structure Sent (ids : List Uuid) (r r' : Nat × Message) : Prop where
  sent : r.2.id ∈ ids → ∃ at_, r' = (r.1, r.2.markProcessed at_)
  unsent : r.2.id ∉ ids → r' = r

/-- Rows keep their identifiers when they are sent. -/
theorem Sent.id {ids : List Uuid} {r r' : Nat × Message} (h : Sent ids r r') :
    r'.2.id = r.2.id := by
  by_cases hsent : r.2.id ∈ ids
  · obtain ⟨_, rfl⟩ := h.sent hsent
    rfl
  · rw [h.unsent hsent]

/-- One more row is marked. -/
theorem sent_change {s s' : Store} {ids : List Uuid} (hs : s.Sound) (hs' : s'.Sound)
    (hrows : List.Forall₂ (Sent ids) s.outbox s'.outbox) {m : Message} (hm : m ∈ s.messages)
    (hpending : m.isPending = true) (hnew : m.id ∉ ids) (at_ : Instant) :
    List.Forall₂ (Sent (ids ++ [m.id])) s.outbox
      (s'.change m.id (Message.marked at_)).outbox := by
  rw [Store.change, Store.changeMessage_eq_map m.id _ hs'.ids_nodup]
  refine forall₂_map_of_mem hrows fun r hr r' hrow => ?_
  by_cases hid : r.2.id = m.id
  · -- this is the row at hand, which was not sent before
    obtain rfl := hs.eq_of_id_eq (List.mem_map_of_mem hr) hm hid
    obtain rfl := hrow.unsent hnew
    rw [if_pos rfl]
    exact ⟨fun _ => ⟨at_, by rw [Message.marked, if_pos hpending]⟩,
      fun hnot => absurd (List.mem_append_right _ List.mem_cons_self) hnot⟩
  · have hother : r.2.id ∈ ids ++ [m.id] ↔ r.2.id ∈ ids := by simp [hid]
    rw [if_neg (by rw [hrow.id]; exact hid)]
    exact ⟨by rw [hother]; exact hrow.sent, by rw [hother]; exact hrow.unsent⟩

/-- The service after the given rows of `w` were sent. -/
structure Sending (P : Service κ ι E → Prop) (d : Dispatcher (Service κ ι E) κ)
    (w : Service κ ι E) (sent : List Message) (v : Service κ ι E) : Prop where
  sound : v.store.Sound
  holds : P v
  rows : List.Forall₂ (Sent (sent.map Message.id)) w.store.outbox v.store.outbox
  log : v.log = w.log ++ sent.filterMap (eventOf d)

variable {sent rest : List Message}

/-- At first nothing was sent. -/
theorem Flawless.sending_nothing (h : Flawless P d w) (hs : w.store.Sound) :
    Sending P d w [] w where
  sound := hs
  holds := h.holds
  rows := List.forall₂_same.mpr fun _ _ => ⟨fun hnone => by simp at hnone, fun _ => rfl⟩
  log := (List.append_nil _).symm

/-- Showing a phase sends nothing. -/
theorem Sending.phase (hv : Sending P d w sent v) (h : Flawless P d w) (p : Phase) :
    Sending P d w sent ((d.setPhase p).run v).2 := by
  have hholds := h.phase p v hv.holds
  obtain ⟨display, hphase⟩ := h.serves.setPhase p
  rw [hphase] at hholds ⊢
  exact ⟨hv.sound, hholds, hv.rows, hv.log⟩

/-- A row that was not sent yet is stored as it was. -/
theorem Sending.unsent (hv : Sending P d w sent v) {m : Message} (hm : m ∈ w.store.messages)
    (hnew : m.id ∉ sent.map Message.id) : m ∈ v.store.messages := by
  obtain ⟨r, hr, rfl⟩ := List.mem_map.mp hm
  obtain ⟨r', hr', hrow⟩ := exists_right_of_forall₂ hv.rows hr
  obtain rfl := hrow.unsent hnew
  exact List.mem_map_of_mem hr'

/-- One more row is sent. -/
theorem Sending.dispatchRow (hv : Sending P d w sent v) (h : Flawless P d w) (hs : w.store.Sound)
    {m : Message} (hm : m ∈ w.store.eligible d.config.maxAttempts)
    (hnew : m.id ∉ sent.map Message.id) : (d.dispatchRow m).Ensures v
      (fun outcome v' => outcome = .published ∧ Sending P d w (sent ++ [m]) v')
      fun _ => False := by
  obtain ⟨e, hdecode, hpublish⟩ := h.publish m hm
  obtain ⟨hstored, hpending, -⟩ := Store.mem_eligible_iff.mp hm
  apply Dispatcher.dispatchRow_ensures
  case unreadable =>
    intro cause hcause
    rw [hdecode] at hcause
    cases hcause
  case readable =>
    -- the registry can read every row that waits
    intro e' he'
    obtain rfl : e = e' := by simpa only [hdecode, Except.ok.injEq] using he'
    refine (hpublish v hv.holds).mono (fun answer v₁ hpub => ?_) fun _ hfalse => hfalse
    obtain rfl := hpub.answer
    -- publishing leaves the row as it is, so it can be marked
    have hs₁ : v₁.store.Sound := hv.sound.congr hpub.outbox hpub.nextSeq
    have hstored₁ : m ∈ v₁.store.messages := by
      rw [Store.messages, hpub.outbox]
      exact hv.unsent hstored hnew
    have hmark := outbox_markProcessed_eq hs₁ hstored₁ (d.clock v₁)
    rw [hpub.unarmed] at hmark
    rw [h.serves.outbox]
    refine Action.ensures_of_run_ok hmark ⟨rfl, ?_⟩
    constructor
    case sound => exact hs₁.change m.id fun x => (Message.sameEvent_marked _ x).id
    case holds => exact h.mark m hm _ v₁ hpub.holds
    case rows =>
      rw [List.map_append, List.map_singleton]
      refine sent_change hs hs₁ ?_ hstored hpending hnew (d.clock v₁)
      rw [hpub.outbox]
      exact hv.rows
    case log =>
      have hevent : eventOf d m = some e := by rw [eventOf, hdecode, Except.toOption]
      show v₁.log = _
      rw [hpub.log, hv.log, List.filterMap_append, List.append_assoc]
      simp [hevent]

/-- The rows that were not sent wait as they did. -/
theorem Sending.eligible (hv : Sending P d w sent v) (hs : w.store.Sound)
    {maxAttempts : Option UInt32} (hrest : w.store.eligible maxAttempts = sent ++ rest) :
    v.store.eligible maxAttempts = rest := by
  have hgone : List.Forall₂
      (fun r r' => if decide (r.2.id ∈ sent.map Message.id) then r'.2.isPending = false else r' = r)
      w.store.outbox v.store.outbox := by
    refine hv.rows.imp fun r r' hrow => ?_
    by_cases hsent : r.2.id ∈ sent.map Message.id
    · -- a sent row is processed
      obtain ⟨at_, rfl⟩ := hrow.sent hsent
      rw [if_pos (decide_eq_true hsent)]
      rfl
    · rw [if_neg (by simpa using hsent)]
      exact hrow.unsent hsent
  have hnodup := hs.nodup_eligible maxAttempts
  rw [hrest] at hnodup
  have hfilter : v.store.eligible maxAttempts =
      (w.store.eligible maxAttempts).filter fun m => !decide (m.id ∈ sent.map Message.id) := by
    rw [Store.eligible_eq_map, Store.eligibleRows_of_gone hs hgone, Store.eligible_eq_map,
      List.filter_map]
    rfl
  -- the fetch leaves out what the filter does, so only the rest remains of the list
  rw [hfilter, hrest, List.filter_append]
  -- no identifier occurs twice, so that just the sent rows are left out
  have hnone : sent.filter (fun m => !decide (m.id ∈ sent.map Message.id)) = [] :=
    List.filter_eq_nil_iff.mpr fun m hm => by simpa using ⟨m, hm, rfl⟩
  have hall : rest.filter (fun m => !decide (m.id ∈ sent.map Message.id)) = rest :=
    List.filter_eq_self.mpr fun m hm => by simpa using Message.id_notMem_of_nodup hnodup hm
  rw [hnone, hall, List.nil_append]

/-! ## §3 Cycles -/

/-- The report of a cycle that published all that it fetched. -/
def allPublished (n : Nat) : DispatchReport :=
  { fetched := n, published := n }

/-- A cycle sends the next batch. -/
theorem Sending.cycle (hv : Sending P d w sent v) (h : Flawless P d w)
    (valid : d.config.problem? = none) (hs : w.store.Sound)
    (hrest : w.store.eligible d.config.maxAttempts = sent ++ rest) :
    d.dispatchOnce.Ensures v (fun answer v' =>
      answer = .ok (allPublished (rest.take d.config.batchSize.toNat).length) ∧
        Sending P d w (sent ++ rest.take d.config.batchSize.toNat) v') fun _ => False := by
  let batch := rest.take d.config.batchSize.toNat
  have hcycle : d.dispatchOnce.Ensures v (fun answer v' => ∃ r, answer = .ok r ∧
      (r = { fetched := batch.length, published := batch.length } ∧
        Sending P d w (sent ++ batch) v')) fun _ => False := by
    apply Dispatcher.dispatchOnce_ensures_all (I := fun r visited v' =>
      r = { fetched := batch.length, published := visited.length } ∧
        Sending P d w (sent ++ visited) v') valid
    case uncancelled => exact fun r visited v' hv' => h.uncancelled v' hv'.2.holds
    case fetch =>
      -- a fetch without faults answers the first rows of those that were not sent yet
      refine Action.ensures_of_run_ok (h.serves.fetchBatch_unarmed (h.fetch v hv.holds)) ?_
      rw [hv.eligible hs hrest, List.append_nil]
      exact ⟨rfl, rfl, hv.phase h .polling⟩
    case phase =>
      intro p r visited v' ⟨hr, hv'⟩
      have hphase := hv'.phase h p
      obtain ⟨display, hdisplay⟩ := h.serves.setPhase p
      rw [hdisplay] at hphase ⊢
      exact ⟨hr, hphase⟩
    case row =>
      rintro r visited m later v' hbatch ⟨rfl, hv'⟩
      -- the row at hand is the next of those that wait, and none of those sent before
      have hnodup := hs.nodup_eligible d.config.maxAttempts
      have heligible : w.store.eligible d.config.maxAttempts =
          (sent ++ visited) ++ m :: (later ++ rest.drop d.config.batchSize.toNat) := by
        rw [hrest, ← List.take_append_drop d.config.batchSize.toNat rest]
        show sent ++ (batch ++ _) = _
        rw [hbatch]
        simp
      rw [heligible] at hnodup
      have hm : m ∈ w.store.eligible d.config.maxAttempts := by
        rw [heligible]
        exact List.mem_append_right _ List.mem_cons_self
      have hnew : m.id ∉ (sent ++ visited).map Message.id :=
        Message.id_notMem_of_nodup hnodup List.mem_cons_self
      refine (hv'.dispatchRow h hs hm hnew).mono (fun outcome v'' ⟨houtcome, hv''⟩ => ?_)
        fun _ hfalse => hfalse
      subst houtcome
      rw [List.append_assoc] at hv''
      exact ⟨by simp [DispatchReport.count], hv''⟩
  refine hcycle.mono (fun answer v' ⟨r, hanswer, hr, hv'⟩ => ?_) fun _ hfalse => hfalse
  exact ⟨by rw [hanswer, hr]; rfl, hv'⟩

/-- The cycles may also be counted from the first one on. -/
theorem afterCycles_succ (d : Dispatcher (Service κ ι E) κ) (k : Nat) (w : Service κ ι E) :
    afterCycles d (k + 1) w = (d.dispatchOnce.run (afterCycles d k w)).2 := by
  induction k generalizing w with
  | zero => rfl
  | succ k ih => exact ih (d.dispatchOnce.run w).2

/-- Consecutive cycles send consecutive parts of the rows that waited at first. -/
theorem Flawless.after (h : Flawless P d w) (valid : d.config.problem? = none)
    (hs : w.store.Sound) (k : Nat) :
    Sending P d w
      ((w.store.eligible d.config.maxAttempts).take (k * d.config.batchSize.toNat))
      (afterCycles d k w) := by
  -- each cycle takes the part of the list behind the parts of the cycles before it
  induction k with
  | zero =>
    rw [Nat.zero_mul, List.take_zero]
    exact h.sending_nothing hs
  | succ k ih =>
    obtain ⟨answer, -, -, hnext⟩ :=
      (ih.cycle h valid hs (List.take_append_drop _ _).symm).exists_answer
    rw [← List.take_add] at hnext
    rw [afterCycles_succ, Nat.succ_mul]
    exact hnext

/-! ## §4 Batches of any size -/

/-- Rows that wait for a dispatcher, in the order of their time and, at one time, of their
insertion, with the events that they are read into. -/
structure Waiting (d : Dispatcher (Service κ ι E) κ) (w : Service κ ι E)
    (rows : List (Nat × Message)) (events : List (Event κ)) : Prop where
  perm : rows.Perm (w.store.outbox.filter fun r => r.2.waits d.config.maxAttempts)
  distinct : (rows.map (·.2.id)).Nodup
  ordered : rows.Pairwise fun r r' => r.2.createdAt < r'.2.createdAt ∨
    (r.2.createdAt ≤ r'.2.createdAt ∧ r.1 < r'.1)
  read : List.Forall₂ (fun r e => d.registry.decode r.2.eventType r.2.payload = .ok e)
    rows events

/-- The number of cycles after which `n` rows have been fetched. -/
def cyclesFor (d : Dispatcher (Service κ ι E) κ) (n : Nat) : Nat :=
  (n + d.config.batchSize.toNat - 1) / d.config.batchSize.toNat

/-- What the cycles of a dispatcher make of the rows that wait for it. -/
structure Empties (d : Dispatcher (Service κ ι E) κ) (w : Service κ ι E)
    (rows : List (Nat × Message)) (events : List (Event κ)) : Prop where
  /-- Every cycle publishes as many rows as are left, up to the batch size. -/
  answers : ∀ k, (d.dispatchOnce.run (afterCycles d k w)).1 = .ok (.ok (allPublished
    (min d.config.batchSize.toNat (rows.length - k * d.config.batchSize.toNat))))
  /-- All events are published once, in order. -/
  log : (afterCycles d (cyclesFor d rows.length) w).log = w.log ++ events
  /-- The rows that waited are processed, and nothing else about them or other rows changes. -/
  processed : List.Forall₂ (fun r r' => if r.2.waits d.config.maxAttempts then
      ∃ at_, r' = (r.1, r.2.markProcessed at_) else r' = r)
    w.store.outbox (afterCycles d (cyclesFor d rows.length) w).store.outbox
  /-- Later cycles fetch nothing, and do nothing but show their phases. -/
  later : ∀ k, cyclesFor d rows.length ≤ k → d.dispatchOnce.run (afterCycles d k w) =
    (.ok (.ok {}), ((d.setPhase .idle).run ((d.setPhase .polling).run (afterCycles d k w)).2).2)

/-- As many cycles as that fetch all `n` rows. -/
theorem le_cyclesFor_mul (hsize : d.config.batchSize.toNat ≠ 0) {n k : Nat}
    (hk : cyclesFor d n ≤ k) : n ≤ k * d.config.batchSize.toNat := by
  have hdiv := Nat.div_add_mod (n + d.config.batchSize.toNat - 1) d.config.batchSize.toNat
  have hmod := Nat.mod_lt (n + d.config.batchSize.toNat - 1) (Nat.pos_of_ne_zero hsize)
  have hmul := Nat.mul_le_mul_left d.config.batchSize.toNat hk
  rw [Nat.mul_comm _ k, cyclesFor] at hmul
  omega

/-- The rows that wait, as the store sorts them. -/
theorem Flawless.waiting (h : Flawless P d w) (hs : w.store.Sound) :
    Waiting d w (w.store.eligibleRows d.config.maxAttempts)
      ((w.store.eligible d.config.maxAttempts).filterMap (eventOf d)) where
  perm := List.mergeSort_perm _ _
  distinct := by
    have hnodup := hs.nodup_eligible d.config.maxAttempts
    rw [Store.eligible_eq_map, List.map_map] at hnodup
    exact hnodup
  ordered := by
    have hnodup := hs.nodup_eligible d.config.maxAttempts
    rw [Store.eligible_eq_map, List.map_map] at hnodup
    refine ((w.store.pairwise_eligibleRows _).and (List.pairwise_map.mp hnodup)).imp_of_mem
      fun {r r'} hr hr' ⟨hbefore, hid⟩ => ?_
    -- the numbers of different rows are different
    have hnumber : r.1 ≠ r'.1 := fun heq =>
      hid (congrArg (·.2.id) (hs.row_eq_of_number_eq (Store.mem_eligibleRows_iff.mp hr).1
        (Store.mem_eligibleRows_iff.mp hr').1 heq))
    rw [Store.fetchedBefore_iff] at hbefore
    rw [Instant.lt_iff, Instant.le_iff]
    omega
  read := by
    -- the rows are read one after the other, and each of them has its event
    have hreads : ∀ r ∈ w.store.eligibleRows d.config.maxAttempts, ∃ e,
        d.registry.decode r.2.eventType r.2.payload = .ok e := fun r hr =>
      (h.publish r.2 (List.mem_map_of_mem hr)).imp fun _ he => he.1
    rw [Store.eligible_eq_map]
    generalize w.store.eligibleRows d.config.maxAttempts = rows at hreads
    induction rows with
    | nil => exact .nil
    | cons r rows ih =>
      obtain ⟨e, he⟩ := hreads r List.mem_cons_self
      have hevent : eventOf d r.2 = some e := by rw [eventOf, he, Except.toOption]
      rw [List.map_cons, List.filterMap_cons_some hevent]
      exact .cons he (ih fun r' hr' => hreads r' (List.mem_cons_of_mem _ hr'))

/-- With a valid configuration, the cycles send all rows that wait and then find nothing. -/
theorem Flawless.empties (h : Flawless P d w) (valid : d.config.problem? = none)
    (hs : w.store.Sound) : Empties d w (w.store.eligibleRows d.config.maxAttempts)
      ((w.store.eligible d.config.maxAttempts).filterMap (eventOf d)) := by
  have hsize : d.config.batchSize.toNat ≠ 0 := fun hzero =>
    (DispatcherConfig.problem?_eq_none_iff.mp valid).2.1 (UInt32.toNat_inj.mp hzero)
  have hlength : (w.store.eligibleRows d.config.maxAttempts).length =
      (w.store.eligible d.config.maxAttempts).length := by
    rw [Store.eligible_eq_map, List.length_map]
  -- after enough cycles, everything that waited was sent
  have hall : ∀ k, cyclesFor d (w.store.eligibleRows d.config.maxAttempts).length ≤ k →
      Sending P d w (w.store.eligible d.config.maxAttempts) (afterCycles d k w) := by
    intro k hk
    have hsending := h.after valid hs k
    rwa [List.take_of_length_le (hlength ▸ le_cyclesFor_mul hsize hk)] at hsending
  constructor
  case answers =>
    intro k
    obtain ⟨answer, hrun, hanswer, -⟩ := ((h.after valid hs k).cycle h valid hs
      (List.take_append_drop _ _).symm).exists_answer
    rw [hrun, hanswer, List.length_take, List.length_drop, hlength]
  case log => exact (hall _ (Nat.le_refl _)).log
  case processed =>
    refine forall₂_imp_of_mem (hall _ (Nat.le_refl _)).rows fun r hr r' hrow => ?_
    by_cases hwaits : r.2.waits d.config.maxAttempts = true
    · rw [if_pos hwaits]
      exact hrow.sent ((Store.waits_iff hs hr).mp hwaits)
    · rw [if_neg hwaits]
      exact hrow.unsent fun hid => hwaits ((Store.waits_iff hs hr).mpr hid)
  case later =>
    -- what was sent is not eligible any more, and nothing else was
    intro k hk
    have hsending := hall k hk
    have hnone := hsending.eligible hs (List.append_nil _).symm
    exact h.serves.dispatchOnce_empty valid (h.fetch _ hsending.holds) hnone

/-- A batch size does no harm to a valid configuration unless it is zero. -/
theorem withBatchSize_valid (valid : d.config.problem? = none) {b : UInt32} (hb : b ≠ 0) :
    (d.withBatchSize b).config.problem? = none :=
  DispatcherConfig.problem?_of_batchSize valid hb

/-- A limit of no attempts at all leaves no row to fetch, and is refused. -/
theorem waits_zero (m : Message) : m.waits (some 0) = false := by
  simp [Message.waits, Message.attemptsExhausted]

/-- When nothing fails, the events that are published do not depend on the batch size: with a valid
configuration, the rows that wait are published once, in their order, and then nothing is left to
fetch.  The cycles of a refused configuration do nothing, with whatever batch size; a limit of no
attempts at all is refused, although no row waits under it. -/
theorem same_events_in_any_batches (hw : w.store.Reachable) (h : Flawless P d w) :
    (d.config.problem? = none → ∃ rows events, Waiting d w rows events ∧
      (∀ b, b ≠ 0 → Empties (d.withBatchSize b) w rows events) ∧
      ∀ b b', b ≠ 0 → b' ≠ 0 →
        (afterCycles (d.withBatchSize b) (cyclesFor (d.withBatchSize b) rows.length) w).log =
          (afterCycles (d.withBatchSize b') (cyclesFor (d.withBatchSize b') rows.length) w).log) ∧
    (∀ b p, (d.withBatchSize b).config.problem? = some p → p.failure.code = .validationFailed ∧
      ∀ v, (d.withBatchSize b).dispatchOnce.run v = (.ok (.error p.failure), v)) ∧
    (d.config.maxAttempts = some 0 → (∀ m : Message, m.waits d.config.maxAttempts = false) ∧
      ∀ b, (d.withBatchSize b).config.problem? ≠ none) := by
  refine ⟨fun valid => ?_, fun b p hproblem => ⟨rfl, ?_⟩, fun hzero => ⟨fun m => ?_, fun b => ?_⟩⟩
  · have hempties : ∀ b, b ≠ 0 → Empties (d.withBatchSize b) w
        (w.store.eligibleRows d.config.maxAttempts)
        ((w.store.eligible d.config.maxAttempts).filterMap (eventOf d)) :=
      fun b hb => (h.withBatchSize b).empties (withBatchSize_valid valid hb) hw.sound
    refine ⟨_, _, h.waiting hw.sound, hempties, fun b b' hb hb' => ?_⟩
    rw [(hempties b hb).log, (hempties b' hb').log]
  · exact Dispatcher.dispatchOnce_of_problem hproblem
  · rw [hzero]
    exact waits_zero m
  · exact fun valid => (DispatcherConfig.problem?_eq_none_iff.mp valid).2.2 hzero

/-- A courier that publishes while there is paper. -/
private def scribe : Dispatcher Shop.Desk Shop.Kind :=
  { Shop.courier {} with
    publish := fun e => Action.step fun w =>
      (if w.rest = 0 then .error (.plain .publishFailed "out of paper") else .ok (),
        { w with log := w.log ++ [e] }) }

/-- Three rows, of which the first is the latest and the others are of one time. -/
private def shelf : Shop.Desk :=
  let row (n : Nat) (at_ : Instant) :=
    (Message.ofEvent (Shop.created n) "Item" "7" (Uuid.ofNat 9) at_).toOption.toList
  let rows := row 1 (.ofFields Shop.opening.date 17 0 0 0) ++ row 2 Shop.opening ++
    row 3 Shop.opening
  let changes := { transactionId := Uuid.ofNat 9, messages := rows }
  { Shop.desk with store := ((Store.commit changes).run {}).2, rest := 1 }

/-- There is paper, and no fault is armed. -/
private def Supplied (w : Shop.Desk) : Prop :=
  w.rest = 1 ∧ w.store.faults.fetch = none ∧ w.store.faults.markProcessed = none

private theorem published_while_supplied {m : Message} {s : Store}
    (hreads : ∀ m ∈ s.messages,
      (scribe.registry.decode m.eventType m.payload).toOption.isSome = true)
    (hm : m ∈ s.messages) : ∃ e, scribe.registry.decode m.eventType m.payload = .ok e ∧
      ∀ v, Supplied v → (scribe.publish e).Ensures v (Published Supplied e v) fun _ => False := by
  cases hdecode : scribe.registry.decode m.eventType m.payload with
  | error cause =>
    have hread := hreads m hm
    rw [hdecode] at hread
    cases hread
  | ok e =>
    refine ⟨e, rfl, fun v hv => ?_⟩
    have hpaper : v.rest ≠ 0 := by rw [hv.1]; decide
    exact ⟨if_neg hpaper, rfl, rfl, rfl, hv.2.2, hv⟩

/-- Nothing fails for the courier, whatever its configuration. -/
private theorem flawless_scribe (config : DispatcherConfig) :
    Flawless Supplied { scribe with config } shelf where
  serves := ⟨rfl, fun _ => ⟨id, rfl⟩⟩
  holds := ⟨rfl, by decide +kernel, by decide +kernel⟩
  phase := fun _ _ hv => hv
  uncancelled := fun _ _ => rfl
  fetch := fun _ hv => hv.2.1
  publish := fun m hm => published_while_supplied (s := shelf.store) (by decide +kernel)
    (Store.mem_eligible_iff.mp hm).1
  mark := fun _ _ _ _ hv => hv

/-- With batches of one row and of two rows, the same three events in the same order. -/
theorem same_events_in_ones_and_twos : ∃ rows events, Waiting scribe shelf rows events ∧
    rows.map (·.2.id) = [Uuid.ofNat 2, Uuid.ofNat 3, Uuid.ofNat 1] ∧
    (afterCycles (scribe.withBatchSize 1) 3 shelf).log = events ∧
    (afterCycles (scribe.withBatchSize 2) 2 shelf).log = events := by
  obtain ⟨rows, events, hwaiting, hempties, -⟩ :=
    (same_events_in_any_batches (Store.Reachable.empty.commit _)
      (flawless_scribe scribe.config)).1 (by decide)
  have hlength : rows.length = 3 := by
    rw [hwaiting.perm.length_eq]
    decide +kernel
  -- the order determines the list, since no row stands before itself
  have hrows : rows = shelf.store.outbox.rotateLeft 1 := by
    refine (hwaiting.perm.trans (by decide +kernel)).eq_of_pairwise (fun a b _ _ hab hba => ?_)
      hwaiting.ordered (by decide +kernel)
    simp only [Instant.lt_iff, Instant.le_iff] at hab hba
    omega
  have hone := (hempties 1 (by decide)).log
  have htwo := (hempties 2 (by decide)).log
  rw [hlength] at hone htwo
  refine ⟨rows, events, hwaiting, ?_, hone, htwo⟩
  rw [hrows]
  decide +kernel

/-- The courier with a limit of no attempts at all. -/
private def idler : Dispatcher Shop.Desk Shop.Kind :=
  { scribe with config := { maxAttempts := some 0 } }

/-- The courier without any time between its cycles. -/
private def racer : Dispatcher Shop.Desk Shop.Kind :=
  { scribe with config := { pollInterval := .ofMillis 0 } }

/-- Nothing fails, and yet a cycle does not report that it fetched nothing where no row waits, and
publishes nothing where three rows wait: both configurations are refused. -/
theorem refused_cycles_report_nothing : shelf.store.Reachable ∧
    (Flawless Supplied idler shelf ∧
      shelf.store.messages.filter (·.waits idler.config.maxAttempts) = [] ∧
      idler.dispatchOnce.run shelf =
        (.ok (.error DispatcherConfigProblem.maxAttempts.failure), shelf)) ∧
    Flawless Supplied racer shelf ∧
      (shelf.store.messages.filter (·.waits racer.config.maxAttempts)).length = 3 ∧
      racer.dispatchOnce.run shelf =
        (.ok (.error DispatcherConfigProblem.pollInterval.failure), shelf) :=
  ⟨Store.Reachable.empty.commit _,
    ⟨flawless_scribe _, by decide +kernel, Dispatcher.dispatchOnce_of_problem (by decide) shelf⟩,
    flawless_scribe _, by decide +kernel, Dispatcher.dispatchOnce_of_problem (by decide) shelf⟩

end Service

end EventOutbox
