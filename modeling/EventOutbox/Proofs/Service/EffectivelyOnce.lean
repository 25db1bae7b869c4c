import EventOutbox.Proofs.Delivery.Publishing
import EventOutbox.Proofs.Service.Cycles
import EventOutbox.Proofs.Service.Sample
import EventOutbox.Proofs.Service.Steps
import EventOutbox.Proofs.Store.Ledger

/-!
# Effectively-once handling

Rows are delivered again and again until every handler of their type has succeeded, but a handler in
its idempotent form works on an event until it succeeds once, and not again.  The invariant ties the
journal of calls to the ledger: a handler has succeeded on an event exactly when the ledger has the
key of the event and of the handler's name, nothing follows a success in the journal, and the
handlers of a processed row are all in the ledger.

## Main statement

- `Service.handled_effectively_once`
-/

namespace EventOutbox.Service

variable {κ ι E : Type} [EventCatalog κ]

/-! ## §1 Guarded handlers -/

/-- The service with a note at the end of its journal. -/
def withNote (c : CallNote) (n : Nat) (id : Uuid) (w : Service κ ι E) : Service κ ι E :=
  { w with calls := w.calls ++ [(c, n, id)] }

/-- Note something about the call of a handler. -/
def note (c : CallNote) (n : Nat) (id : Uuid) : Action (Service κ ι E) Unit :=
  .update (withNote c n id)

/-- The handler with its calls noted in the journal. -/
def noted (n : Nat) {kind : κ} (inner : Handler (Service κ ι E) kind) :
    Handler (Service κ ι E) kind where
  name := inner.name
  handle body := do
    note .invoked n ((EventCatalog.schema kind).id body)
    match ← inner.handle body with
    | .error f => pure (.error f)
    | .ok () =>
      note .succeeded n ((EventCatalog.schema kind).id body)
      pure (.ok ())

/-- The idempotent form of the handler in a place, on the ledger of the store. -/
def guarded (clock : Service κ ι E → Instant) (s : Subscription (Service κ ι E) κ) (n : Nat) :
    Subscription (Service κ ι E) κ :=
  ⟨s.kind, .idempotent (Store.ledgerAccess storeCell clock) (noted n s.handler)⟩

/-- The bus to which the idempotent forms of some handlers are subscribed. -/
def guardedBus (clock : Service κ ι E → Instant)
    (handlers : List (Subscription (Service κ ι E) κ)) : Bus (Service κ ι E) κ :=
  ⟨handlers.zipIdx.map fun p => guarded clock p.1 p.2⟩

/-- Moves that leave the ledger and the journal of calls alone. -/
structure Aside [DecidableEq ι] (w w' : Service κ ι E) : Prop where
  moves : Moves w w'
  ledger : w'.store.ledger = w.store.ledger
  calls : w'.calls = w.calls

/-! ## §2 The invariant -/

variable {handlers : List (Subscription (Service κ ι E) κ)}

/-- The journal of calls agrees with the ledger, and processed rows are handled. -/
structure Handled (handlers : List (Subscription (Service κ ι E) κ)) (w : Service κ ι E) :
    Prop where
  sound : w.store.Sound
  recorded : ∀ {n s}, handlers[n]? = some s → ∀ id,
    (CallNote.succeeded, n, id) ∈ w.calls ↔ w.store.hasConsumer id s.handler.name = true
  final : w.calls.Pairwise fun a b => a.1 = .succeeded → b.2 ≠ a.2
  processed : ∀ m ∈ w.store.messages, m.isPending = false → ∀ s ∈ handlers,
    s.eventType = m.eventType → w.store.hasConsumer m.id s.handler.name = true

/-- Nothing was called, recorded or stored yet. -/
theorem handled_of_fresh {w : Service κ ι E} (hw : w.Fresh) : Handled handlers w := by
  constructor
  case sound =>
    rw [hw.store]
    exact Store.sound_empty {}
  case recorded =>
    intro n s _ id
    rw [hw.calls, hw.store]
    simp [Store.hasConsumer, Table.contains, Table.find?]
  case final =>
    rw [hw.calls]
    exact List.Pairwise.nil
  case processed =>
    intro m hm
    rw [hw.store] at hm
    simp [Store.messages] at hm

/-- The invariant heeds rows only as far as they are processed. -/
theorem Handled.congr {w w' : Service κ ι E} (hw : Handled handlers w) (calls : w'.calls = w.calls)
    (ledger : w'.store.ledger = w.store.ledger) (sound : w'.store.Sound)
    (rows : ∀ m' ∈ w'.store.messages, m'.isPending = false →
      ∃ m ∈ w.store.messages, m.SameEvent m' ∧ m.isPending = false) : Handled handlers w' := by
  constructor
  case sound => exact sound
  case recorded =>
    intro n s hs id
    rw [calls, Store.hasConsumer, ledger]
    exact hw.recorded hs id
  case final =>
    rw [calls]
    exact hw.final
  case processed =>
    intro m' hm' hprocessed s hs htype
    obtain ⟨m, hm, hsame, hpending⟩ := rows m' hm' hprocessed
    rw [Store.hasConsumer, ledger, hsame.id]
    exact hw.processed m hm hpending s hs (htype.trans hsame.eventType)

/-- What happens beside store, ledger and journal keeps the invariant. -/
theorem Handled.idle {w w' : Service κ ι E} (hw : Handled handlers w) (h : Idle w w') :
    Handled handlers w' := by
  obtain ⟨faults, rest, rfl⟩ := h
  exact hw.congr rfl rfl (hw.sound.congr rfl rfl) fun m hm hpending => ⟨m, hm, .refl m, hpending⟩

/-- Moves that leave the ledger and the calls alone keep it, since they add pending rows only. -/
theorem Handled.aside [DecidableEq ι] {w w' : Service κ ι E} (hw : Handled handlers w)
    (h : Aside w w') : Handled handlers w' := by
  have hextends := h.moves.extends
  obtain ⟨ms, hms, huntouched⟩ := hextends.rows
  refine hw.congr h.calls h.ledger (hextends.sound hw.sound) fun m hm hprocessed => ?_
  rw [hms] at hm
  rcases List.mem_append.mp hm with hm | hm
  · exact ⟨m, hm, .refl m, hprocessed⟩
  · -- rows that were added are pending
    rw [Message.isPending, (huntouched m hm).pending] at hprocessed
    cases hprocessed

/-- A failure processes no row. -/
theorem Handled.failed {w : Service κ ι E} (hw : Handled handlers w) (id : Uuid) (error : String) :
    Handled handlers (w.failed id error) := by
  refine hw.congr rfl rfl (hw.sound.change id fun _ => rfl) fun m' hm' hprocessed => ?_
  have hrows : m' ∈ w.store.messages.map fun m => if m.id = id then m.failed error else m := by
    rw [← Store.messages_change hw.sound]
    exact hm'
  obtain ⟨m, hm, rfl⟩ := List.mem_map.mp hrows
  refine ⟨m, hm, ?_, ?_⟩
  · -- counting a failure changes nothing of the event that a row carries
    split
    · exact Message.sameEvent_failed error m
    · exact .refl m
  · -- nor whether it is processed
    split at hprocessed
    · exact hprocessed
    · exact hprocessed

/-- A row may be marked when its handlers are in the ledger. -/
theorem Handled.marked {w : Service κ ι E} (hw : Handled handlers w) {m : Message}
    (hm : m ∈ w.store.messages) (at_ : Instant) (hall : ∀ s ∈ handlers, s.eventType = m.eventType →
      w.store.hasConsumer m.id s.handler.name = true) : Handled handlers (w.marked m.id at_) := by
  constructor
  case sound => exact hw.sound.change m.id fun m => (Message.sameEvent_marked at_ m).id
  case recorded => exact hw.recorded
  case final => exact hw.final
  case processed =>
    intro m' hm' hprocessed s hs htype
    rcases (Store.mem_messages_change hw.sound hm (Message.marked at_)).mp hm' with rfl | ⟨hm', -⟩
    · have hsame := Message.sameEvent_marked at_ m
      rw [hsame.id]
      exact hall s hs (htype.trans hsame.eventType)
    · exact hw.processed m' hm' hprocessed s hs htype

/-! ## §3 Calls of handlers -/

/-- While the ledger does not have a handler and an event, no success is noted before another note
about them. -/
theorem Handled.pairwise_note {w : Service κ ι E} (hw : Handled handlers w) {n : Nat}
    {s : Subscription (Service κ ι E) κ} (hs : handlers[n]? = some s) {id : Uuid}
    (hnot : w.store.hasConsumer id s.handler.name = false) (c : CallNote) :
    (w.calls ++ [(c, n, id)]).Pairwise fun a b => a.1 = .succeeded → b.2 ≠ a.2 := by
  rw [List.pairwise_append]
  refine ⟨hw.final, List.pairwise_singleton _ _, fun a ha b hb hsucceeded heq => ?_⟩
  rw [List.mem_singleton] at hb
  subst hb
  -- an earlier success would be in the ledger
  have hmem : (CallNote.succeeded, n, id) ∈ w.calls := by
    obtain ⟨c', key⟩ := a
    dsimp only at hsucceeded heq
    rw [hsucceeded, ← heq] at ha
    exact ha
  rw [hw.recorded hs id, hnot] at hmem
  cases hmem

/-- Invoking a handler that the ledger does not have keeps the invariant. -/
theorem Handled.invoked {w : Service κ ι E} (hw : Handled handlers w) {n : Nat}
    {s : Subscription (Service κ ι E) κ} (hs : handlers[n]? = some s) {id : Uuid}
    (hnot : w.store.hasConsumer id s.handler.name = false) :
    Handled handlers (w.withNote .invoked n id) where
  sound := hw.sound
  recorded := fun hs' id' => by
    simp only [withNote, List.mem_append, List.mem_singleton, Prod.mk.injEq, reduceCtorEq,
      false_and, or_false]
    exact hw.recorded hs' id'
  final := hw.pairwise_note hs hnot .invoked
  processed := hw.processed

/-- Handlers with one name are one handler. -/
theorem place_eq_of_name_eq (hnames : (handlers.map (·.handler.name)).Nodup) {n n' : Nat}
    {s s' : Subscription (Service κ ι E) κ} (hs : handlers[n]? = some s)
    (hs' : handlers[n']? = some s') (hname : s'.handler.name = s.handler.name) : n' = n := by
  have hlt : n' < (handlers.map (·.handler.name)).length := by
    rw [List.length_map]
    exact (List.getElem?_eq_some_iff.mp hs').1
  refine (List.getElem?_inj hlt hnames).mp ?_
  simp only [List.getElem?_map, hs, hs', Option.map_some, hname]

/-- A success is noted and recorded. -/
theorem Handled.recordedSuccess (hnames : (handlers.map (·.handler.name)).Nodup)
    {w : Service κ ι E} (hw : Handled handlers w) {n : Nat}
    {s : Subscription (Service κ ι E) κ} (hs : handlers[n]? = some s) {id : Uuid}
    (hnot : w.store.hasConsumer id s.handler.name = false) {ledger : Table LedgerKey LedgerRow}
    (hledger : ∀ k, ledger.contains k = true ↔
      k = (id, s.handler.name) ∨ w.store.ledger.contains k = true) :
    Handled handlers { w.withNote .succeeded n id with store := { w.store with ledger } } where
  sound := hw.sound.congr rfl rfl
  recorded := fun {n' s'} hs' id' => by
    simp only [withNote, List.mem_append, List.mem_singleton, Prod.mk.injEq, true_and]
    rw [Store.hasConsumer, hledger, Prod.mk.injEq, hw.recorded hs' id', Store.hasConsumer, or_comm]
    -- the noted place and the recorded name are those of one handler
    refine or_congr_left ⟨?_, ?_⟩
    · rintro ⟨rfl, rfl⟩
      rw [hs, Option.some.injEq] at hs'
      exact ⟨rfl, hs' ▸ rfl⟩
    · rintro ⟨rfl, hname⟩
      exact ⟨place_eq_of_name_eq hnames hs hs' hname, rfl⟩
  final := hw.pairwise_note hs hnot .succeeded
  processed := fun m hm hprocessed s' hs' htype =>
    (hledger _).mpr (.inr (hw.processed m hm hprocessed s' hs' htype))

/-- Rows stay, and what is recorded stays recorded. -/
structure Progress (w w' : Service κ ι E) : Prop where
  keeps : w.store.Keeps w'.store
  ledger : ∀ k, w.store.ledger.contains k = true → w'.store.ledger.contains k = true

/-- Nothing at all is progress, too. -/
theorem Progress.refl (w : Service κ ι E) : Progress w w := ⟨.refl _, fun _ h => h⟩

theorem Progress.trans (u v w : Service κ ι E) (h : Progress u v) (h' : Progress v w) :
    Progress u w :=
  ⟨h.keeps.trans h'.keeps, fun k hk => h'.ledger k (h.ledger k hk)⟩

variable [DecidableEq ι]

/-- Moves of handlers are progress. -/
theorem Aside.progress {w w' : Service κ ι E} (h : Aside w w') : Progress w w' :=
  ⟨h.moves.extends.keeps, fun k hk => by rw [h.ledger]; exact hk⟩

/-- What a handler that the ledger does not have leaves behind when it fails and when it
succeeds. -/
theorem noted_ensures {n : Nat} {s : Subscription (Service κ ι E) κ} (hs : handlers[n]? = some s)
    (hinner : ∀ body, (s.handler.handle body).Within Aside) {w : Service κ ι E}
    (hw : Handled handlers w) (body : EventBody s.kind)
    (hnot : w.store.hasConsumer ((EventCatalog.schema s.kind).id body) s.handler.name = false) :
    ((noted n s.handler).handle body).Ensures w (fun
      | .error _, w' => Handled handlers w' ∧ Progress w w'
      | .ok (), w' => ∃ v : Service κ ι E,
        w' = v.withNote .succeeded n ((EventCatalog.schema s.kind).id body) ∧
          Handled handlers v ∧ Progress w v ∧
          v.store.hasConsumer ((EventCatalog.schema s.kind).id body) s.handler.name = false)
      (Handled handlers) := by
  simp only [noted, note, Action.ensures_bind, Action.ensures_update]
  -- between the two notes the handler moves on its own, beside ledger and journal
  have haside := Action.ensures_world_iff.mpr
    (hinner body (w.withNote .invoked n ((EventCatalog.schema s.kind).id body)))
  refine haside.mono (fun answer w' h => ?_) fun w' h => (hw.invoked hs hnot).aside h
  have hw' := (hw.invoked hs hnot).aside h
  have hprogress : Progress w w' := ⟨h.progress.keeps, h.progress.ledger⟩
  rcases answer with f | _
  · exact ⟨hw', hprogress⟩
  · refine ⟨w', rfl, hw', hprogress, ?_⟩
    rw [Store.hasConsumer, h.ledger]
    exact hnot

omit [DecidableEq ι] in
/-- Recording in the ledger of a service answers and changes the ledger only. -/
theorem ledger_record_run (clock : Service κ ι E → Instant) (w : Service κ ι E) (id : Uuid)
    (consumer : String) : ∃ answer ledger,
      ((Store.ledgerAccess storeCell clock).record id consumer).run w =
        (.ok (.ok answer), { w with store := { w.store with ledger } }) ∧
      ∀ k, ledger.contains k = true ↔ k = (id, consumer) ∨ w.store.ledger.contains k = true := by
  obtain ⟨answer, ledger, hrun, hledger⟩ :=
    Store.recordConsumer_run w.store id consumer (clock w)
  refine ⟨answer, ledger, ?_, hledger⟩
  have hfocus : (storeCell.focus (Store.recordConsumer id consumer (clock w))).run w =
      (.ok answer, { w with store := { w.store with ledger } }) := by
    simp only [Action.run_focus, storeCell, hrun]
  simp only [Store.ledgerAccess, Action.run_bind_of_ok (Action.run_ask clock w),
    Action.run_bind_of_ok hfocus, Action.run_pure]

/-- A guarded handler keeps the invariant, and its success is recorded. -/
theorem guarded_ensures (clock : Service κ ι E → Instant)
    (hnames : (handlers.map (·.handler.name)).Nodup) {n : Nat}
    {s : Subscription (Service κ ι E) κ} (hs : handlers[n]? = some s)
    (hinner : ∀ body, (s.handler.handle body).Within Aside) {w : Service κ ι E}
    (hw : Handled handlers w) (body : EventBody s.kind) :
    ((guarded clock s n).handler.handle body).Ensures w
      (fun answer w' => Handled handlers w' ∧ Progress w w' ∧ (answer = .ok () →
        w'.store.hasConsumer ((EventCatalog.schema s.kind).id body) s.handler.name = true))
      (Handled handlers) := by
  have hname : (noted n s.handler).name = s.handler.name := rfl
  have hlook : ((Store.ledgerAccess storeCell clock).contains
      ((EventCatalog.schema s.kind).id body) s.handler.name).run w =
        (.ok (.ok (w.store.hasConsumer ((EventCatalog.schema s.kind).id body) s.handler.name)),
          w) := rfl
  simp only [guarded, Handler.idempotent, Action.ensures_bind, hname]
  refine Action.ensures_of_run_ok hlook ?_
  -- the ledger decides whether the handler is called at all
  cases hhas : w.store.hasConsumer ((EventCatalog.schema s.kind).id body) s.handler.name with
  | true =>
    -- the handler has succeeded before and is not called
    exact ⟨hw, .refl w, fun _ => hhas⟩
  | false =>
    rw [Action.ensures_bind]
    refine (noted_ensures hs hinner hw body hhas).mono (fun answer w' h => ?_) fun _ h => h
    rcases answer with f | _
    · -- a failure is not recorded
      exact ⟨h.1, h.2, fun hok => by cases hok⟩
    · -- between the note of the success and the ledger's record the two do not agree
      obtain ⟨v, rfl, hv, hprogress, hnot⟩ := h
      rw [Action.ensures_bind]
      obtain ⟨answer, ledger, hrun, hledger⟩ := ledger_record_run clock
        (v.withNote .succeeded n ((EventCatalog.schema s.kind).id body))
        ((EventCatalog.schema s.kind).id body) s.handler.name
      refine Action.ensures_of_run_ok hrun ?_
      refine ⟨hv.recordedSuccess hnames hs hnot hledger, ?_, fun _ => (hledger _).mpr (.inl rfl)⟩
      refine Progress.trans _ _ _ hprogress ⟨?_, fun k hk => (hledger k).mpr (.inr hk)⟩
      exact Store.keeps_of_same_rows rfl rfl

/-! ## §4 Publishing -/

variable [DecidableEq κ]

/-- What the guarded handlers need to be told apart and to leave each other alone. -/
structure WellBehaved (handlers : List (Subscription (Service κ ι E) κ)) : Prop where
  names : (handlers.map (·.handler.name)).Nodup
  inner : ∀ s ∈ handlers, ∀ body, (s.handler.handle body).Within Aside

/-- A subscription to a guarded handler keeps the invariant, also when it is handed an event of
another kind, and if it answers with success, this is recorded. -/
theorem guarded_deliver_ensures (clock : Service κ ι E → Instant) (hbehaved : WellBehaved handlers)
    {n : Nat} {s : Subscription (Service κ ι E) κ} (hs : handlers[n]? = some s) (e : Event κ)
    {w : Service κ ι E} (hw : Handled handlers w) :
    ((guarded clock s n).deliver e).Ensures w
      (fun answer w' => Handled handlers w' ∧ Progress w w' ∧
        (answer = .ok () → w'.store.hasConsumer e.id s.handler.name = true))
      (Handled handlers) := by
  have hinner := hbehaved.inner s (List.mem_of_getElem? hs)
  refine Bus.deliver_ensures ⟨hw, .refl w, fun hok => by cases hok⟩ fun body hbody => ?_
  subst hbody
  exact guarded_ensures clock hbehaved.names hs hinner hw body

/-- Publishing succeeds when every handler of the event's type has succeeded. -/
theorem guardedBus_ensures (clock : Service κ ι E → Instant) (hbehaved : WellBehaved handlers)
    (e : Event κ) {w : Service κ ι E} (hw : Handled handlers w) :
    ((guardedBus clock handlers).publish logCell e).Ensures w
      (fun answer w' => Handled handlers w' ∧ Progress w w' ∧ (answer = .ok () →
        ∀ s ∈ handlers, s.eventType = e.eventType →
          w'.store.hasConsumer e.id s.handler.name = true))
      (Handled handlers) := by
  have hlogged : Handled handlers (logCell.set (logCell.get w ++ [e]) w) :=
    hw.congr rfl rfl hw.sound fun m hm hpending => ⟨m, hm, .refl m, hpending⟩
  have hpublish := (guardedBus clock handlers).publish_ensures logCell (e := e)
    (J := Handled handlers) (X := Handled handlers) (R := Progress)
    (P := fun s w => w.store.hasConsumer e.id s.handler.name = true)
    Progress.refl Progress.trans (fun s v v' hP hR => hR.ledger _ hP) ?_ hlogged
  · -- what the ledger has of the first handlers it still has after the last one
    refine hpublish.mono (fun answer w' ⟨hw', hprogress, hall⟩ => ?_) fun _ h => h
    refine ⟨hw', ⟨hprogress.keeps, hprogress.ledger⟩, fun hok s hs htype => ?_⟩
    obtain ⟨n, hn⟩ := List.mem_iff_getElem?.mp hs
    refine hall hok (guarded clock s n) ?_
    rw [Bus.subscribers, List.mem_filter]
    refine ⟨List.mem_map.mpr ⟨(s, n), List.mk_mem_zipIdx_iff_getElem?.mpr hn, rfl⟩, ?_⟩
    exact decide_eq_true htype
  · intro s' hs' v hv
    obtain ⟨⟨s, n⟩, hmem, rfl⟩ := List.mem_map.mp (List.mem_filter.mp hs').1
    exact guarded_deliver_ensures clock hbehaved (List.mk_mem_zipIdx_iff_getElem?.mp hmem) e hv

/-! ## §5 Cycles -/

omit [DecidableEq ι] [DecidableEq κ] in
/-- A row is read into an event of the type that it is stored under. -/
theorem eventType_of_decode {registry : Registry κ} {eventType : String} {payload : Json}
    {e : Event κ} (h : registry.decode eventType payload = .ok e) : e.eventType = eventType := by
  rw [Registry.decode] at h
  cases hfind : registry.find? eventType with
  | none => simp [hfind] at h
  | some kind =>
    have hdiscriminator : (EventCatalog.schema kind).discriminator = eventType := by
      simpa using List.find?_some hfind
    cases hread : (Event.shape kind).decode payload with
    | error cause => simp [hfind, Event.ofPayload, hread, Except.map, Except.mapError] at h
    | ok body =>
      simp only [hfind, Event.ofPayload, hread, Except.map, Except.mapError, Except.ok.injEq] at h
      subst h
      exact hdiscriminator

variable {d : Dispatcher (Service κ ι E) κ}

omit [DecidableEq ι] [DecidableEq κ] in
/-- A failed attempt keeps the invariant, whether or not its counter was full. -/
theorem Handled.recordFailure {w : Service κ ι E} (hw : Handled handlers w) (hd : Serves d)
    (m : Message) (f : Failure) (outcome : RowOutcome) :
    (d.recordFailure m f outcome).Ensures w
      (fun _ w' => Handled handlers w' ∧ w.store.Keeps w'.store) (Handled handlers) := by
  rw [Dispatcher.recordFailure_ensures, hd.outbox]
  have hworld : Handled handlers ((outbox.recordFailure m.id f.text).run w).2 ∧
      w.store.Keeps ((outbox.recordFailure m.id f.text).run w).2.store := by
    rcases outbox_recordFailure_world hw.sound m.id f.text with h | h <;> rw [h]
    · exact ⟨hw, .refl _⟩
    · exact ⟨hw.failed m.id f.text,
        (Store.delivers_change _ _ (Message.sameEvent_failed f.text)).keeps⟩
  exact (Action.ensures_world_iff (P := fun w' => Handled handlers w' ∧
    w.store.Keeps w'.store).mpr hworld).mono (fun _ _ h => h) fun _ h => h.1

/-- Delivering a stored row keeps the invariant. -/
theorem Handled.dispatchRow {w : Service κ ι E} (hw : Handled handlers w) (hd : Serves d)
    {clock : Service κ ι E → Instant} (hbehaved : WellBehaved handlers)
    (hpublish : d.publish = (guardedBus clock handlers).publish logCell) {m : Message}
    (hstored : ∃ m' ∈ w.store.messages, m.SameEvent m')
    (hreads : ∀ e, d.registry.decode m.eventType m.payload = .ok e → e.id = m.id) :
    (d.dispatchRow m).Ensures w
      (fun _ w' => Handled handlers w' ∧ w.store.Keeps w'.store) (Handled handlers) := by
  refine Dispatcher.dispatchRow_ensures (fun e _ => hw.recordFailure hd m _ _)
    fun event hdecode => ?_
  rw [hpublish]
  refine (guardedBus_ensures clock hbehaved event hw).mono
    (fun answer w₁ ⟨hw₁, hprogress, hall⟩ => ?_) fun _ h => h
  -- what is recorded as a failure from here on keeps the rows that publishing kept
  have hfailure : ∀ (f : Failure) (w₂ : Service κ ι E), Handled handlers w₂ →
      w₁.store.Keeps w₂.store → (d.recordFailure m f .failed).Ensures w₂
        (fun _ w' => Handled handlers w' ∧ w.store.Keeps w'.store) (Handled handlers) :=
    fun f w₂ hw₂ hkeeps => (hw₂.recordFailure hd m f .failed).mono
      (fun _ _ h => ⟨h.1, (hprogress.keeps.trans hkeeps).trans h.2⟩) fun _ h => h
  rcases answer with f | _
  · exact hfailure f w₁ hw₁ (.refl _)
  · -- every handler of the row's type has succeeded, so that a mark is allowed
    obtain ⟨m₀, hm₀, hsame₀⟩ := hstored
    obtain ⟨m₁, hm₁, hsame₁⟩ := hprogress.keeps.rows hw.sound m₀ hm₀
    have hsame := hsame₀.trans hsame₁
    rw [hd.outbox, ← hsame.id]
    rcases outbox_markProcessed_run hw₁.sound hm₁ (d.clock w₁) with ⟨f, v, hrun, hidle⟩ | hrun
    · exact Action.ensures_of_run_ok hrun (hfailure f v (hw₁.idle hidle) hidle.keeps)
    · refine Action.ensures_of_run_ok hrun ⟨hw₁.marked hm₁ _ fun s hs htype => ?_, ?_⟩
      · -- the event read from the row has the identifier and the type of the row
        rw [hsame.id, ← hreads event hdecode]
        refine hall rfl s hs ?_
        rw [htype, hsame.eventType, eventType_of_decode hdecode]
      · exact hprogress.keeps.trans (Store.delivers_change _ _ (Message.sameEvent_marked _)).keeps

/-- A cycle keeps the invariant, wherever it ends. -/
theorem Handled.cycle {w : Service κ ι E} (hw : Handled handlers w) (hd : Serves d)
    {clock : Service κ ι E → Instant} (hbehaved : WellBehaved handlers)
    (hpublish : d.publish = (guardedBus clock handlers).publish logCell)
    (hreads : Faithful d.registry w) : Handled handlers (d.dispatchOnce.run w).2 := by
  have hcycle := hd.dispatchOnce_ensures (w := w) (X := Handled handlers)
    (I := fun _ w' => Handled handlers w' ∧ w.store.Keeps w'.store) ⟨hw, .refl _⟩ ?_ ?_
  · exact (hcycle.mono (fun _ _ h => h.1) fun _ h => h).world
  · rintro - v v' ⟨hv, hkeeps⟩ hidle
    exact ⟨hv.idle hidle, hkeeps.trans hidle.keeps⟩
  · intro visited m rest v hbatch ⟨hv, hkeeps⟩
    -- the batch was fetched at the start, so its rows are followed through the cycle
    obtain ⟨hm, -, -⟩ := hd.next_in_batch hbatch
    exact (hv.dispatchRow hd hbehaved hpublish (hkeeps.rows hw.sound m hm) (hreads m hm)).mono
      (fun _ _ h => ⟨h.1, hkeeps.trans h.2⟩) fun _ h => h

/-! ## §6 Runs -/

omit [DecidableEq κ] in
/-- A guarded handler keeps every row. -/
theorem guarded_keeps (clock : Service κ ι E → Instant) (n : Nat)
    {s : Subscription (Service κ ι E) κ} (hinner : ∀ body, (s.handler.handle body).Within Aside)
    (body : EventBody s.kind) : ((guarded clock s n).handler.handle body).Within
      fun w w' => w.store.Keeps w'.store := by
  have refl : ∀ w : Service κ ι E, w.store.Keeps w.store := fun w => .refl w.store
  have trans : ∀ u v w : Service κ ι E, u.store.Keeps v.store → v.store.Keeps w.store →
      u.store.Keeps w.store := fun _ _ _ h h' => h.trans h'
  have hnoted : ((noted n s.handler).handle body).Within
      fun w w' => w.store.Keeps w'.store := by
    refine Action.Within.bind trans (fun w => refl w) fun _ => ?_
    refine Action.Within.bind trans (fun w => (hinner body w).progress.keeps) fun answer => ?_
    rcases answer with f | _
    · exact Action.within_pure refl _
    · exact Action.Within.bind trans (fun w => refl w) fun _ => Action.within_pure refl _
  refine Action.Within.bind trans (fun w => refl w) fun has => ?_
  -- whichever way the handler takes, every action on it keeps the rows
  rcases has with f | _ | _
  · exact Action.within_pure refl _
  · refine Action.Within.bind trans hnoted fun answer => ?_
    rcases answer with f | _
    · exact Action.within_pure refl _
    · refine Action.Within.bind trans (fun w => ?_) fun answer => ?_
      · obtain ⟨answer, ledger, hrun, -⟩ := ledger_record_run clock w
          ((EventCatalog.schema s.kind).id body) (noted n s.handler).name
        rw [hrun]
        exact Store.keeps_of_same_rows rfl rfl
      · rcases answer with f | _
        · exact Action.within_pure refl _
        · exact Action.within_pure refl _
  · exact Action.within_pure refl _

/-- Publishing to guarded handlers keeps every row. -/
theorem guardedBus_keeps (clock : Service κ ι E → Instant) (hbehaved : WellBehaved handlers)
    (e : Event κ) : ((guardedBus clock handlers).publish logCell e).Within
      fun w w' => w.store.Keeps w'.store := by
  refine Bus.publish_within (fun w => .refl w.store) (fun _ _ _ h h' => h.trans h')
    (fun w => .refl w.store) fun s' hs' body => ?_
  obtain ⟨⟨s, n⟩, hmem, rfl⟩ := List.mem_map.mp hs'
  have hs := List.mem_of_getElem? (List.mk_mem_zipIdx_iff_getElem?.mp hmem)
  exact guarded_keeps clock n (hbehaved.inner s hs) body

/-- The dispatchers that read by one registry and publish on the guarded bus. -/
structure Delivering (registry : Registry κ) (clock : Service κ ι E → Instant)
    (handlers : List (Subscription (Service κ ι E) κ)) (d : Dispatcher (Service κ ι E) κ) :
    Prop where
  registry : d.registry = registry
  publish : d.publish = (guardedBus clock handlers).publish logCell

/-- The invariant holds after every run. -/
theorem handled_of_run {registry : Registry κ} {clock : Service κ ι E → Instant}
    (hbehaved : WellBehaved handlers) {h : List (List Uuid)} {w : Service κ ι E}
    (hrun : Run Aside (Delivering registry clock handlers) h w) (hreads : Faithful registry w) :
    Handled handlers w := by
  refine Run.induction_faithful (P := fun _ w => Handled handlers w)
    (fun v w h => h.progress.keeps) (fun d hd e => ?_) (fun w => handled_of_fresh)
    (fun h v w hv hmove => hv.aside hmove) (fun h v d hv hserves hd hreads => ?_) hrun hreads
  · rw [hd.publish]
    exact guardedBus_keeps clock hbehaved e
  · exact hv.cycle hserves hbehaved hd.publish (hd.registry ▸ hreads)

/-- What became of a row in the hands of a handler: it succeeded at most once, exactly when the
ledger has the row and its name, it was not called again afterwards, and it succeeded if the row is
processed. -/
structure HandledOnce (w : Service κ ι E) (m : Message) (n : Nat)
    (s : Subscription (Service κ ι E) κ) : Prop where
  at_most_once : w.calls.count (.succeeded, n, m.id) ≤ 1
  recorded : w.calls.count (.succeeded, n, m.id) = 1 ↔
    w.store.hasConsumer m.id s.handler.name = true
  not_again : w.calls.Pairwise fun a b => a = (.succeeded, n, m.id) → b ≠ (.invoked, n, m.id)
  when_processed : m.isPending = false → w.calls.count (.succeeded, n, m.id) = 1

/-- A note that no other note about the same call follows occurs once at most. -/
theorem count_succeeded_le_one {calls : List (CallNote × Nat × Uuid)}
    (h : calls.Pairwise fun a b => a.1 = .succeeded → b.2 ≠ a.2) (key : Nat × Uuid) :
    calls.count (.succeeded, key) ≤ 1 := by
  -- two equal notes would be a success and a later note about the same call
  by_contra hmany
  have htwice : [(CallNote.succeeded, key), (CallNote.succeeded, key)].Sublist calls :=
    List.replicate_sublist_iff.mpr (Nat.lt_of_not_le hmany)
  have hpair := h.sublist htwice
  rw [List.pairwise_pair] at hpair
  exact hpair rfl rfl

/-- Idempotent handlers with distinct names work on every event effectively once, whatever the inner
handlers answer and whatever faults, cancellations and limits the cycles meet. -/
theorem handled_effectively_once (clock : Service κ ι E → Instant)
    (hbehaved : WellBehaved handlers) {registry : Registry κ} {h : List (List Uuid)}
    {w : Service κ ι E} (hrun : Run Aside (Delivering registry clock handlers) h w)
    (hreads : Faithful registry w) :
    ∀ m ∈ w.store.messages, ∀ n s, handlers[n]? = some s → s.eventType = m.eventType →
      HandledOnce w m n s := by
  have hw := handled_of_run hbehaved hrun hreads
  intro m hm n s hs htype
  -- at most one success is noted, so to be recorded and to be noted once are the same
  have hle := count_succeeded_le_one hw.final (n, m.id)
  have hiff : w.calls.count (.succeeded, n, m.id) = 1 ↔
      w.store.hasConsumer m.id s.handler.name = true := by
    rw [← hw.recorded hs, ← List.count_pos_iff]
    omega
  constructor
  case at_most_once => exact hle
  case recorded => exact hiff
  case not_again =>
    refine hw.final.imp fun hab ha hb => ?_
    subst ha hb
    exact hab rfl rfl
  case when_processed =>
    intro hprocessed
    exact hiff.mpr (hw.processed m hm hprocessed s (List.mem_of_getElem? hs) htype)

private def crew : List (Subscription Shop.Desk Shop.Kind) :=
  [Shop.mailer, Shop.printer]

private def dispatched (w : Shop.Desk) : Shop.Desk :=
  ((Shop.courier (guardedBus (fun _ => Shop.opening) crew)).dispatchOnce.run w).2

/-- An item appears, is committed, and is delivered twice, as the printer fails at first. -/
private def printed : Shop.Desk :=
  dispatched (dispatched ((Shop.desk.raise true (Shop.created 1)).commit [(true, .added)]
    Shop.purchase))

private theorem wellBehaved_crew : WellBehaved crew where
  names := by decide
  inner := by
    intro s hs
    rcases List.mem_cons.mp hs with rfl | hs
    · exact fun _ _ => ⟨.refl, rfl, rfl⟩
    · obtain rfl := List.mem_singleton.mp hs
      exact fun _ _ => ⟨.single (.elsewhere rfl rfl rfl), rfl, rfl⟩

/-- The mailer is not called again when the row comes back for the printer. -/
theorem not_called_again_once_succeeded :
    printed.store.messages.map Message.isPending = [false] ∧
    printed.calls = [(.invoked, 0, Uuid.ofNat 1), (.succeeded, 0, Uuid.ofNat 1),
      (.invoked, 1, Uuid.ofNat 1), (.invoked, 1, Uuid.ofNat 1), (.succeeded, 1, Uuid.ofNat 1)] ∧
    ∀ m ∈ printed.store.messages, Shop.printer.eventType = m.eventType ∧
      HandledOnce printed m 1 Shop.printer := by
  have hstart : Run Aside (Delivering (.ofList [.itemCreated]) (fun _ => Shop.opening) crew) []
      Shop.desk := .start Shop.fresh_desk
  have hraised := hstart.move ⟨.single (.raise true (Shop.created 1) (by decide)), rfl, rfl⟩
  have hcommitted := hraised.move
    ⟨.single (.commit [(true, .added)] Shop.purchase (by decide)), rfl, rfl⟩
  have hfirst := hcommitted.cycle _ (Shop.serves_courier _) ⟨rfl, rfl⟩
  have hsecond : Run Aside _ _ printed := hfirst.cycle _ (Shop.serves_courier _) ⟨rfl, rfl⟩
  have hreads : Faithful (.ofList [.itemCreated]) printed := by decide +kernel
  have htypes : ∀ m ∈ printed.store.messages, Shop.printer.eventType = m.eventType := by
    decide +kernel
  refine ⟨by decide +kernel, by decide +kernel, fun m hm => ⟨htypes m hm, ?_⟩⟩
  exact handled_effectively_once _ wellBehaved_crew hsecond hreads m hm 1 Shop.printer rfl
    (htypes m hm)

end EventOutbox.Service
