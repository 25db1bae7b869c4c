import EventOutbox.Proofs.Service.Basic
import EventOutbox.Proofs.Store.Delivery

/-!
# Cycles of a service

What a cycle does to objects and outbox rows, whatever publishing does, and the rule by which a
cycle is followed row by row.

## Main statements

- `Service.Serves.portsWithin`, `Service.Serves.keeps`: bounds for whole cycles.
- `Service.Serves.dispatchOnce_ensures`: the rule for the rows that a cycle reaches.
-/

namespace EventOutbox.Service

variable {κ ι E : Type} [EventCatalog κ]

/-! ## §1 Bounds -/

/-- Objects are as they are, and rows change in their delivery state only. -/
def Delivered (w w' : Service κ ι E) : Prop :=
  w'.aggregates = w.aggregates ∧ w.store.Delivers w'.store

/-- Only armed faults and the rest of the program change. -/
def Idle (w w' : Service κ ι E) : Prop :=
  ∃ faults rest, w' = { w with store := { w.store with faults }, rest }

/-- An idle service keeps its rows. -/
theorem Idle.keeps {w w' : Service κ ι E} (h : Idle w w') : w.store.Keeps w'.store := by
  obtain ⟨faults, rest, rfl⟩ := h
  exact Store.keeps_of_same_rows rfl rfl

/-! ## §2 Ports -/

variable {d : Dispatcher (Service κ ι E) κ}

/-- A mark touches the delivery state of rows only, whatever it answers. -/
theorem outbox_markProcessed_within (id : Uuid) (at_ : Instant) :
    ((outbox : OutboxAccess (Service κ ι E)).markProcessed id at_).Within Delivered := by
  intro w
  have hstore := Store.markProcessed_within id at_ w.store
  simp only [outbox, Store.outboxAccess, Action.run_bind, Action.run_focus, storeCell]
  rcases hrun : (Store.markProcessed id at_).run w.store with ⟨answer, s⟩
  rw [hrun] at hstore
  rcases answer with e | f | _
  · exact ⟨rfl, hstore⟩
  · exact ⟨rfl, hstore⟩
  · exact ⟨rfl, hstore⟩

/-- A mark logs nothing. -/
theorem outbox_markProcessed_log (id : Uuid) (at_ : Instant) :
    ((outbox : OutboxAccess (Service κ ι E)).markProcessed id at_).Within
      fun w w' => w'.log = w.log := by
  intro w
  simp only [outbox, Store.outboxAccess, Action.run_bind, Action.run_focus, storeCell]
  rcases (Store.markProcessed id at_).run w.store with ⟨_ | _ | _, s⟩ <;> rfl

/-- Nor does a failure. -/
theorem outbox_recordFailure_log (id : Uuid) (error : String) :
    ((outbox : OutboxAccess (Service κ ι E)).recordFailure id error).Within
      fun w w' => w'.log = w.log :=
  fun _ => rfl

/-- The service after a row was marked. -/
def marked (id : Uuid) (at_ : Instant) (w : Service κ ι E) : Service κ ι E :=
  { w with
    store := w.store.change id (Message.marked at_)
    marks := w.marks ++ [(id, w.log.length)] }

/-- The service after an attempt for a row failed. -/
def failed (id : Uuid) (error : String) (w : Service κ ι E) : Service κ ι E :=
  { w with store := w.store.change id (Message.failed · error) }

/-- A mark of a stored row meets the armed fault, which is used up, or marks the row. -/
theorem outbox_markProcessed_eq {w : Service κ ι E} (hs : w.store.Sound) {m : Message}
    (hm : m ∈ w.store.messages) (at_ : Instant) :
    (outbox.markProcessed m.id at_).run w = match w.store.faults.markProcessed with
      | some f =>
        let faults := { w.store.faults with markProcessed := none }
        (.ok (.error f), { w with store := { w.store with faults } })
      | none => (.ok (.ok ()), w.marked m.id at_) := by
  have hstore := Store.markProcessed_run hs hm at_
  simp only [outbox, Store.outboxAccess, Action.run_bind, Action.run_focus, storeCell, hstore]
  cases w.store.faults.markProcessed <;> rfl

/-- So a mark fails without touching the row, or succeeds. -/
theorem outbox_markProcessed_run {w : Service κ ι E} (hs : w.store.Sound) {m : Message}
    (hm : m ∈ w.store.messages) (at_ : Instant) :
    (∃ f v, (outbox.markProcessed m.id at_).run w = (.ok (.error f), v) ∧ Idle w v) ∨
      (outbox.markProcessed m.id at_).run w = (.ok (.ok ()), w.marked m.id at_) := by
  rw [outbox_markProcessed_eq hs hm at_]
  cases w.store.faults.markProcessed with
  | some f => exact .inl ⟨f, _, rfl, _, w.rest, rfl⟩
  | none => exact .inr rfl

/-- A failure is counted while there is room for it. -/
theorem outbox_recordFailure_run {w : Service κ ι E} (hs : w.store.Sound) {m : Message}
    (hm : m ∈ w.store.messages) (error : String) (room : m.retryCount.toNat + 1 < UInt32.size) :
    (outbox.recordFailure m.id error).run w = (.ok (.ok ()), w.failed m.id error) := by
  simp only [outbox, Store.outboxAccess, Action.run_focus, storeCell,
    Store.recordFailure_run hs hm error room]
  rfl

/-- A failure is counted for the row or for none, also when the counter is full. -/
theorem outbox_recordFailure_world {w : Service κ ι E} (hs : w.store.Sound) (id : Uuid)
    (error : String) : ((outbox.recordFailure id error).run w).2 = w ∨
      ((outbox.recordFailure id error).run w).2 = w.failed id error := by
  simp only [outbox, Store.outboxAccess, Action.run_focus, storeCell]
  rcases Store.recordFailure_world hs id error with hworld | hworld <;> rw [hworld]
  · exact .inl rfl
  · exact .inr rfl

/-- What a dispatcher that delivers the rows of a service does apart from publishing. -/
theorem Serves.portsWithin (hd : Serves d) {R : Service κ ι E → Service κ ι E → Prop}
    (hR : ∀ w w', Delivered w w' → R w w') (hpublish : ∀ e, (d.publish e).Within R) :
    d.PortsWithin R where
  fetch := fun limit maxAttempts w => by
    rw [hd.outbox]
    exact hR _ _ ⟨rfl, Store.fetch_within limit maxAttempts w.store⟩
  markProcessed := fun id at_ w => by
    rw [hd.outbox]
    exact hR _ _ (outbox_markProcessed_within id at_ w)
  recordFailure := fun id error w => by
    rw [hd.outbox]
    exact hR _ _ ⟨rfl, Store.recordFailure_within id error w.store⟩
  publish := hpublish
  setPhase := fun p w => by
    obtain ⟨display, hphase⟩ := hd.setPhase p
    rw [hphase]
    exact hR _ _ ⟨rfl, Store.Delivers.refl w.store⟩

/-- A cycle keeps every row, up to its delivery state, if publishing does. -/
theorem Serves.keeps (hd : Serves d)
    (hpublish : ∀ e, (d.publish e).Within fun w w' => w.store.Keeps w'.store) :
    d.dispatchOnce.Within fun w w' => w.store.Keeps w'.store :=
  Dispatcher.dispatchOnce_within (fun w => .refl w.store) (fun _ _ _ h h' => h.trans h')
    (hd.portsWithin (fun _ _ h => h.2.keeps) hpublish)

/-! ## §3 Cycles -/

/-- A fetch always answers, with the oldest eligible rows if it succeeds. -/
theorem Serves.fetchBatch_run (hd : Serves d) (w : Service κ ι E) :
    ∃ answer v, d.fetchBatch.run w = (.ok answer, v) ∧ Idle w v ∧ ∀ rows, answer = .ok rows →
      rows = (w.store.eligible d.config.maxAttempts).take d.config.batchSize.toNat := by
  obtain ⟨display, hphase⟩ := hd.setPhase .polling
  have hfetch := Store.fetch_run w.store d.config.batchSize d.config.maxAttempts
  rw [Dispatcher.fetchBatch, hphase, Action.run_bind_of_ok (Action.run_update _ w), hd.outbox]
  simp only [Service.outbox, Store.outboxAccess, Action.run_focus, storeCell, hfetch]
  -- the fetch looks for an armed fault first
  cases hfault : w.store.faults.fetch with
  | some f => exact ⟨_, _, rfl, ⟨_, _, rfl⟩, fun rows h => by cases h⟩
  | none =>
    refine ⟨_, _, rfl, ⟨w.store.faults, _, rfl⟩, fun rows h => ?_⟩
    cases h
    rfl

/-- A fetch when no fault is armed. -/
theorem Serves.fetchBatch_unarmed (hd : Serves d) {w : Service κ ι E}
    (unarmed : w.store.faults.fetch = none) : d.fetchBatch.run w =
      (.ok (.ok ((w.store.eligible d.config.maxAttempts).take d.config.batchSize.toNat)),
        ((d.setPhase .polling).run w).2) := by
  obtain ⟨display, hphase⟩ := hd.setPhase .polling
  have hfetch := Store.fetch_run w.store d.config.batchSize d.config.maxAttempts
  rw [unarmed] at hfetch
  rw [Dispatcher.fetchBatch, hphase, Action.run_bind_of_ok (Action.run_update _ w), hd.outbox]
  simp only [Service.outbox, Store.outboxAccess, Action.run_focus, storeCell, hfetch,
    Action.run_update]

/-- When no row is eligible, a cycle does nothing but show its phases. -/
theorem Serves.dispatchOnce_empty (hd : Serves d) {w : Service κ ι E}
    (valid : d.config.problem? = none) (unarmed : w.store.faults.fetch = none)
    (hnone : w.store.eligible d.config.maxAttempts = []) : d.dispatchOnce.run w =
      (.ok (.ok {}), ((d.setPhase .idle).run ((d.setPhase .polling).run w).2).2) := by
  obtain ⟨display, hphase⟩ := hd.setPhase .idle
  apply Dispatcher.dispatchOnce_run_of_empty valid
  · rw [hd.fetchBatch_unarmed unarmed, hnone, List.take_nil]
  · rw [hphase]
    rfl

/-- The batch of a cycle that fetched is what the store offered. -/
theorem Serves.batch_of_fetch (hd : Serves d) {w : Service κ ι E} {rows : List Message}
    (h : (d.fetchBatch.run w).1 = .ok (.ok rows)) :
    d.batch w = (w.store.eligible d.config.maxAttempts).take d.config.batchSize.toNat := by
  obtain ⟨answer, v, hrun, -, hrows⟩ := hd.fetchBatch_run w
  rw [hrun] at h
  rw [Dispatcher.batch_of_fetch (by rw [hrun]; exact h)]
  exact hrows rows (by simpa using h)

/-- Whatever a batch holds was eligible. -/
theorem Serves.eligible_of_mem_batch (hd : Serves d) {w : Service κ ι E} {m : Message}
    (hm : m ∈ d.batch w) : m ∈ w.store.eligible d.config.maxAttempts := by
  obtain ⟨answer, v, hrun, -, hrows⟩ := hd.fetchBatch_run w
  rw [Dispatcher.batch, hrun] at hm
  rcases answer with f | rows
  · -- a fetch that failed has an empty batch
    simp at hm
  · rw [hrows rows rfl] at hm
    exact List.mem_of_mem_take hm

/-- The rows of a batch are stored and pending. -/
theorem Serves.mem_batch (hd : Serves d) {w : Service κ ι E} {m : Message} (hm : m ∈ d.batch w) :
    m ∈ w.store.messages ∧ m.isPending = true := by
  have heligible := Store.mem_eligible_iff.mp (hd.eligible_of_mem_batch hm)
  exact ⟨heligible.1, heligible.2.1⟩

/-- No identifier occurs twice in a batch. -/
theorem Serves.nodup_batch (hd : Serves d) {w : Service κ ι E} (hs : w.store.Sound) :
    ((d.batch w).map Message.id).Nodup := by
  obtain ⟨answer, v, hrun, -, hrows⟩ := hd.fetchBatch_run w
  rw [Dispatcher.batch, hrun]
  rcases answer with f | rows
  · exact List.nodup_nil
  · rw [hrows rows rfl, List.map_take]
    exact (hs.nodup_eligible d.config.maxAttempts).sublist (List.take_sublist _ _)

/-- The next row of a batch is stored and pending, and no row before it has its identifier. -/
theorem Serves.next_in_batch (hd : Serves d) {w : Service κ ι E} {visited rest : List Message}
    {m : Message} (hbatch : d.batch w = visited ++ m :: rest) :
    m ∈ w.store.messages ∧ m.isPending = true ∧
      (w.store.Sound → m.id ∉ visited.map Message.id) := by
  have hm : m ∈ d.batch w := by
    rw [hbatch]
    exact List.mem_append_right _ List.mem_cons_self
  obtain ⟨hstored, hpending⟩ := hd.mem_batch hm
  refine ⟨hstored, hpending, fun hs hvisited => ?_⟩
  have hnodup := hd.nodup_batch hs
  rw [hbatch] at hnodup
  exact Message.id_notMem_of_nodup hnodup List.mem_cons_self hvisited

/-- An assertion that does not heed faults, that the phases keep, and that every delivered row
extends, holds at the end of a cycle for the rows that the cycle reached. -/
theorem Serves.dispatchOnce_ensures_phases (hd : Serves d)
    {I : List Message → Service κ ι E → Prop} {X : Service κ ι E → Prop} {w : Service κ ι E}
    (start : I [] w)
    (fault : ∀ visited w faults, I visited w →
      I visited { w with store := { w.store with faults } })
    (phase : ∀ p visited w, I visited w → I visited ((d.setPhase p).run w).2)
    (row : ∀ visited m rest w', d.batch w = visited ++ m :: rest → I visited w' →
      (d.dispatchRow m).Ensures w' (fun _ w'' => I (visited ++ [m]) w'') X) :
    d.dispatchOnce.Ensures w
      (fun answer w' => I (Dispatcher.reachedRows (d.batch w) answer) w') X := by
  have hphase : ∀ p visited w, I visited w →
      (d.setPhase p).Ensures w (fun _ w' => I visited w') X := by
    intro p visited w hholds
    have hkept := phase p visited w hholds
    obtain ⟨display, hdisplay⟩ := hd.setPhase p
    rw [hdisplay] at hkept ⊢
    exact hkept
  refine Dispatcher.dispatchOnce_ensures start ?_ hphase row
  rw [Dispatcher.fetchBatch, Action.ensures_bind]
  refine (hphase .polling [] w start).mono (fun _ w₁ h₁ => ?_) fun _ h => h
  have hfetch := Store.fetch_run w₁.store d.config.batchSize d.config.maxAttempts
  rw [hd.outbox]
  -- the first phase is shown before the fetch, which uses up a fault or changes nothing
  unfold Action.Ensures
  simp only [Service.outbox, Store.outboxAccess, Action.run_focus, storeCell, hfetch]
  cases w₁.store.faults.fetch with
  | some f => exact fault [] w₁ _ h₁
  | none => exact h₁

/-- The same of assertions that heed neither faults nor phases, which is one condition then. -/
theorem Serves.dispatchOnce_ensures (hd : Serves d) {I : List Message → Service κ ι E → Prop}
    {X : Service κ ι E → Prop} {w : Service κ ι E} (start : I [] w)
    (idle : ∀ visited w w', I visited w → Idle w w' → I visited w')
    (row : ∀ visited m rest w', d.batch w = visited ++ m :: rest → I visited w' →
      (d.dispatchRow m).Ensures w' (fun _ w'' => I (visited ++ [m]) w'') X) :
    d.dispatchOnce.Ensures w
      (fun answer w' => I (Dispatcher.reachedRows (d.batch w) answer) w') X := by
  refine hd.dispatchOnce_ensures_phases start (fun visited w faults hholds => ?_)
    (fun p visited w hholds => ?_) row
  · exact idle visited w _ hholds ⟨faults, w.rest, rfl⟩
  · obtain ⟨display, hphase⟩ := hd.setPhase p
    rw [hphase]
    exact idle visited w _ hholds ⟨w.store.faults, display w.rest, rfl⟩

/-! ## §4 Reading rows -/

/-- The registry reads a row, if it can read it, into an event with the row's identifier. -/
def Faithful (registry : Registry κ) (w : Service κ ι E) : Prop :=
  ∀ m ∈ w.store.messages, ∀ e, registry.decode m.eventType m.payload = .ok e → e.id = m.id

instance (registry : Registry κ) (w : Service κ ι E) : Decidable (Faithful registry w) :=
  decidable_of_iff (∀ m ∈ w.store.messages,
      (registry.decode m.eventType m.payload).toOption.all (fun e => e.id = m.id) = true) <| by
    refine forall₂_congr fun m _ => ?_
    cases registry.decode m.eventType m.payload <;> simp [Except.toOption]

/-- Rows that stay were read before as they are read afterwards. -/
theorem Faithful.of_keeps {registry : Registry κ} {v w : Service κ ι E} (hs : v.store.Sound)
    (h : v.store.Keeps w.store) (hw : Faithful registry w) : Faithful registry v := by
  intro m hm e hdecode
  obtain ⟨m', hm', hsame⟩ := h.rows hs m hm
  rw [← hsame.id]
  refine hw m' hm' e ?_
  rw [hsame.eventType, hsame.payload]
  exact hdecode

/-- What holds at the start and is preserved by moves, and by cycles over rows that the registry
reads faithfully, holds after every run whose rows are read faithfully in the end: rows stay, so
that they were read faithfully all along. -/
theorem Run.induction_faithful {moves : Service κ ι E → Service κ ι E → Prop}
    {allowed : Dispatcher (Service κ ι E) κ → Prop} {registry : Registry κ}
    {P : List (List Uuid) → Service κ ι E → Prop}
    (hmoves : ∀ v w, moves v w → v.store.Keeps w.store)
    (hallowed : ∀ d, allowed d → ∀ e, (d.publish e).Within fun w w' => w.store.Keeps w'.store)
    (start : ∀ w, Fresh w → P [] w)
    (move : ∀ h v w, P h v → moves v w → P h w)
    (cycle : ∀ h v d, P h v → Serves d → allowed d → Faithful registry v →
      P (h ++ [(d.reached v).map Message.id]) (d.dispatchOnce.run v).2)
    {h : List (List Uuid)} {w : Service κ ι E} (hrun : Run moves allowed h w)
    (hreads : Faithful registry w) : P h w := by
  -- soundness does not need faithful rows, and is what lets rows be followed to the end
  have hboth : w.store.Sound ∧ (Faithful registry w → P h w) := by
    clear hreads
    induction hrun with
    | @start w fresh =>
      refine ⟨?_, fun _ => start w fresh⟩
      rw [fresh.store]
      exact Store.sound_empty {}
    | @move h v w _ hmove ih =>
      -- the earlier rows are among the later ones, so they were read faithfully as well
      have hkeeps := hmoves v w hmove
      exact ⟨hkeeps.sound ih.1, fun hreads =>
        move h v w (ih.2 (hreads.of_keeps ih.1 hkeeps)) hmove⟩
    | @cycle h v _ d serves allow ih =>
      have hkeeps := serves.keeps (hallowed d allow) v
      refine ⟨hkeeps.sound ih.1, fun hreads => ?_⟩
      have hreads' := hreads.of_keeps ih.1 hkeeps
      exact cycle h v d (ih.2 hreads') serves allow hreads'
  exact hboth.2 hreads

end EventOutbox.Service
