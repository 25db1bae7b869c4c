import EventOutbox.Proofs.Delivery.Isolation
import EventOutbox.Proofs.Delivery.RowByRow

/-!
# The phases of a cycle

What a dispatcher shows of itself while it works.  A *monitored* dispatcher does to the world what
the dispatcher does, and makes a note of each phase that it writes and of each call on the way, with
the phase of that moment.  From the notes of one cycle follow those of any number of cycles: every
cycle that returns leaves the dispatcher idle, rows are fetched while it is polling, and everything
that is done about a row is done while it is publishing.

## Main statements

- `Dispatcher.dispatchOnce_actsAs`: a dispatcher whose ports act as another one's.
- `Dispatcher.monitored_noted`: the notes of one cycle.
- `Dispatcher.dispatchOnce_phases`: the phases of one cycle and of cycles in a row.
-/

namespace EventOutbox

variable {V W κ : Type} [EventCatalog κ]

/-! ## §1 Acting on a part of the world -/

namespace Action

variable {α β : Type} {cell : Cell V W} {a : Action V α} {b : Action W α}

theorem actsAs_pure (cell : Cell V W) (x : α) : (pure x : Action V α).ActsAs cell (pure x) :=
  fun _ => ⟨rfl, rfl⟩

theorem actsAs_ask {f : V → α} {g : W → α} (h : ∀ v, f v = g (cell.get v)) :
    (ask f).ActsAs cell (ask g) :=
  fun v => ⟨congrArg Except.ok (h v), rfl⟩

/-- Acting on a part is closed under sequencing: the second action starts from the part that the
first one left, whatever became of the rest of the world. -/
theorem ActsAs.bind {f : α → Action V β} {g : α → Action W β} (h : a.ActsAs cell b)
    (hf : ∀ x, (f x).ActsAs cell (g x)) : (a >>= f).ActsAs cell (b >>= g) := by
  intro v
  -- the run on the part is the run on the whole, read through the cell
  have hb : b.run (cell.get v) = ((a.run v).1, cell.get (a.run v).2) :=
    Prod.ext (h v).1.symm (h v).2.symm
  rw [run_bind, run_bind, hb]
  rcases a.run v with ⟨e | x, v'⟩
  · exact ⟨rfl, rfl⟩
  · exact hf x v'

/-- What is changed beside the part before an action makes no difference to it. -/
theorem ActsAs.after_update {f : V → V} (hf : ∀ v, cell.get (f v) = cell.get v)
    (h : a.ActsAs cell b) : (update f >>= fun _ => a).ActsAs cell b := by
  intro v
  rw [run_bind_of_ok (run_update f v), ← hf v]
  exact h (f v)

end Action

open EventOutbox.Action

namespace Dispatcher

/-- The ports of a dispatcher act as those of another one on a part of the world. -/
structure ActsThrough (cell : Cell V W) (d' : Dispatcher V κ) (d : Dispatcher W κ) : Prop where
  registry : d'.registry = d.registry
  config : d'.config = d.config
  fetch : ∀ limit maxAttempts,
    (d'.outbox.fetch limit maxAttempts).ActsAs cell (d.outbox.fetch limit maxAttempts)
  markProcessed : ∀ id at_,
    (d'.outbox.markProcessed id at_).ActsAs cell (d.outbox.markProcessed id at_)
  recordFailure : ∀ id error,
    (d'.outbox.recordFailure id error).ActsAs cell (d.outbox.recordFailure id error)
  publish : ∀ e, (d'.publish e).ActsAs cell (d.publish e)
  setPhase : ∀ p, (d'.setPhase p).ActsAs cell (d.setPhase p)
  cancelled : ∀ v, d'.cancelled v = d.cancelled (cell.get v)
  clock : ∀ v, d'.clock v = d.clock (cell.get v)

section ActsThrough

variable {cell : Cell V W} {d' : Dispatcher V κ} {d : Dispatcher W κ} (h : d'.ActsThrough cell d)

include h

/-- The failure of a row is recorded in the part as in the whole. -/
theorem recordFailure_actsAs (m : Message) (f : Failure) (outcome : RowOutcome) :
    (d'.recordFailure m f outcome).ActsAs cell (d.recordFailure m f outcome) :=
  (h.recordFailure m.id f.text).bind fun _ => actsAs_pure cell outcome

/-- What becomes of a row is decided by the answers of the ports, so it is the same seen from the
part. -/
theorem dispatchRow_actsAs (m : Message) : (d'.dispatchRow m).ActsAs cell (d.dispatchRow m) := by
  -- the registry is no port: it answers alike on both sides, and its answer decides which calls
  -- follow
  unfold dispatchRow
  rw [h.registry]
  cases d.registry.decode m.eventType m.payload with
  | error e => exact recordFailure_actsAs h m e.failure .skipped
  | ok event =>
    refine (h.publish event).bind fun answer => ?_
    rcases answer with f | _
    · exact recordFailure_actsAs h m f .failed
    · refine (actsAs_ask h.clock).bind fun now => ?_
      refine (h.markProcessed m.id now).bind fun mark => ?_
      rcases mark with f | _
      · exact recordFailure_actsAs h m f .failed
      · exact actsAs_pure cell _

theorem dispatchRows_actsAs (r : DispatchReport) (ms : List Message) :
    (d'.dispatchRows r ms).ActsAs cell (d.dispatchRows r ms) := by
  induction ms generalizing r with
  | nil => exact actsAs_pure cell r
  | cons m ms ih =>
    -- the dispatcher asks before each row whether to stop, and both sides hear the same
    refine (actsAs_ask h.cancelled).bind fun cancelled => ?_
    cases cancelled with
    | true => exact actsAs_pure cell _
    | false => exact (dispatchRow_actsAs h m).bind fun outcome => ih _

/-- A batch: the four phases around the rows are themselves calls of a port. -/
theorem dispatchBatch_actsAs (batch : List Message) :
    (d'.dispatchBatch batch).ActsAs cell (d.dispatchBatch batch) := by
  refine (h.setPhase _).bind fun _ => ?_
  refine (h.setPhase _).bind fun _ => ?_
  refine (dispatchRows_actsAs h _ batch).bind fun report => ?_
  refine (h.setPhase _).bind fun _ => ?_
  exact (h.setPhase _).bind fun _ => actsAs_pure cell report

theorem fetchBatch_actsAs : d'.fetchBatch.ActsAs cell d.fetchBatch := by
  unfold fetchBatch
  rw [h.config]
  exact (h.setPhase _).bind fun _ => h.fetch _ _

/-- What is done with the answer to the fetch, for each of its three forms. -/
theorem handleBatch_actsAs (answer : Except Failure (List Message)) :
    (d'.handleBatch answer).ActsAs cell (d.handleBatch answer) := by
  rcases answer with f | _ | ⟨m, ms⟩
  · exact (h.setPhase _).bind fun _ => actsAs_pure cell _
  · exact (h.setPhase _).bind fun _ => actsAs_pure cell _
  · exact (dispatchBatch_actsAs h _).bind fun _ => actsAs_pure cell _

/-- A cycle on a part of the world. -/
theorem dispatchOnce_actsAs : d'.dispatchOnce.ActsAs cell d.dispatchOnce := by
  -- the configuration is checked before any port is called
  cases hproblem : d.config.problem? with
  | some p =>
    simp only [dispatchOnce, h.config, hproblem]
    exact actsAs_pure cell _
  | none =>
    rw [dispatchOnce_eq hproblem, dispatchOnce_eq (h.config ▸ hproblem)]
    exact (fetchBatch_actsAs h).bind (handleBatch_actsAs h)

end ActsThrough

/-! ## §2 Notes -/

/-- What is called in the course of a cycle. -/
inductive Call (κ : Type) [EventCatalog κ] where
  | fetch (limit : UInt32) (maxAttempts : Option UInt32)
  | publish (e : Event κ)
  /-- The handler of the subscription at a place is given an event. -/
  | handle (place : Nat) (e : Event κ)
  | markProcessed (id : Uuid) (at_ : Instant)
  | recordFailure (id : Uuid) (error : String)

/-- The phase that a call belongs to. -/
def Call.phase : Call κ → Phase
  | .fetch .. => .polling
  | .publish _ | .handle .. | .markProcessed .. | .recordFailure .. => .publishing

/-- What is noted of a dispatcher. -/
inductive Note (κ : Type) [EventCatalog κ] where
  /-- A phase is written. -/
  | wrote (p : Phase)
  /-- Something is called in a phase. -/
  | called (c : Call κ) (during : Phase)

/-- The phases that were written, in order. -/
def written (notes : List (Note κ)) : List Phase :=
  notes.filterMap fun
    | .wrote p => some p
    | .called .. => none

/-- Every call was made in the phase that it belongs to. -/
def InPlace (notes : List (Note κ)) : Prop :=
  ∀ c during, Note.called c during ∈ notes → during = c.phase

theorem written_append (notes more : List (Note κ)) :
    written (notes ++ more) = written notes ++ written more :=
  List.filterMap_append

/-- A call writes no phase. -/
theorem written_called (calls : List (Call κ)) (during : Phase) :
    written (calls.map (Note.called · during)) = [] := by
  rw [written, List.filterMap_map, List.filterMap_eq_nil_iff]
  exact fun _ _ => rfl

theorem inPlace_append {notes more : List (Note κ)} (h : InPlace notes) (h' : InPlace more) :
    InPlace (notes ++ more) :=
  fun c during hmem => (List.mem_append.mp hmem).elim (h c during) (h' c during)

/-- The phases that a cycle writes. -/
def phases (d : Dispatcher W κ) (w : W) : List Phase :=
  match d.config.problem?, (d.fetchBatch.run w).1 with
  | some _, _ => []
  -- the run ends early within the fetch
  | none, .error _ => [.polling]
  | none, .ok (.error _) | none, .ok (.ok []) => [.polling, .idle]
  | none, .ok (.ok (_ :: _)) => [.polling, .batchFetched, .publishing, .batchComplete, .idle]

/-- The notes of a cycle that returns. -/
inductive Noted (d : Dispatcher W κ) (w : W) : List (Note κ) → Prop where
  /-- The configuration is refused. -/
  | refused {q} (problem : d.config.problem? = some q) : Noted d w []
  /-- The fetch fails, or there is nothing to deliver. -/
  | nothing {answer} (valid : d.config.problem? = none)
      (fetch : (d.fetchBatch.run w).1 = .ok answer) (empty : ∀ m ms, answer ≠ .ok (m :: ms)) :
      Noted d w [.wrote .polling,
        .called (.fetch d.config.batchSize d.config.maxAttempts) .polling, .wrote .idle]
  /-- There is a batch to deliver. -/
  | delivery {m ms} {calls : List (Call κ)} (valid : d.config.problem? = none)
      (fetch : (d.fetchBatch.run w).1 = .ok (.ok (m :: ms)))
      (own : ∀ c ∈ calls, c.phase = .publishing) :
      Noted d w ([.wrote .polling,
        .called (.fetch d.config.batchSize d.config.maxAttempts) .polling, .wrote .batchFetched,
        .wrote .publishing] ++ calls.map (Note.called · .publishing) ++
        [.wrote .batchComplete, .wrote .idle])

/-- The notes of a cycle show the phases that the cycle writes. -/
theorem Noted.written_eq {d : Dispatcher W κ} {w : W} {notes : List (Note κ)}
    (h : d.Noted w notes) : written notes = d.phases w := by
  cases h with
  | refused problem => simp only [phases, problem]; rfl
  | @nothing answer valid fetch empty =>
    simp only [phases, valid, fetch]
    rcases answer with f | _ | ⟨m, ms⟩
    · rfl
    · rfl
    · exact absurd rfl (empty m ms)
  | delivery valid fetch own =>
    simp only [phases, valid, fetch]
    rw [written_append, written_append, written_called]
    rfl

/-- Each call of a cycle is noted in the phase that it belongs to. -/
theorem Noted.inPlace {d : Dispatcher W κ} {w : W} {notes : List (Note κ)}
    (h : d.Noted w notes) : InPlace notes := by
  -- the fetch comes before the answer is known, so it opens both forms in which something is noted
  have hfetch : InPlace [.wrote .polling,
      (.called (.fetch d.config.batchSize d.config.maxAttempts) .polling : Note κ)] := by
    intro c during hmem
    simp only [List.mem_cons, reduceCtorEq, Note.called.injEq, List.not_mem_nil, or_false,
      false_or] at hmem
    rw [hmem.1, hmem.2, Call.phase]
  have hwritten : ∀ qs : List Phase, InPlace (qs.map fun q => (.wrote q : Note κ)) := by
    intro qs c during hmem
    obtain ⟨_, -, heq⟩ := List.mem_map.mp hmem
    cases heq
  cases h with
  | refused => exact hwritten []
  | nothing => exact inPlace_append hfetch (hwritten [.idle])
  | @delivery m ms calls valid fetch own =>
    have hcalls : InPlace (calls.map (Note.called · .publishing)) := by
      intro c during hmem
      obtain ⟨_, hc, heq⟩ := List.mem_map.mp hmem
      cases heq
      exact (own c hc).symm
    exact inPlace_append (inPlace_append
      (inPlace_append hfetch (hwritten [.batchFetched, .publishing])) hcalls)
      (hwritten [.batchComplete, .idle])

end Dispatcher

open EventOutbox.Dispatcher

/-! ## §3 Monitored worlds -/

/-- A world, the phase of the dispatcher that works on it, and the notes about it so far. -/
structure Monitored (W κ : Type) [EventCatalog κ] where
  world : W
  phase : Phase := .idle
  notes : List (Note κ) := []

namespace Monitored

/-- The world as a part of the monitored one. -/
def cell : Cell (Monitored W κ) W where
  get x := x.world
  set w x := { x with world := w }
  get_set _ _ := rfl
  set_get _ := rfl
  set_set _ _ _ := rfl

/-- A part of the world as a part of the monitored one. -/
def part {σ : Type} (c : Cell W σ) : Cell (Monitored W κ) σ where
  get x := c.get x.world
  set s x := { x with world := c.set s x.world }
  get_set s x := c.get_set s x.world
  set_get x := by rw [c.set_get]
  set_set s t x := by rw [c.set_set]

/-- Make a note of a call, and go on. -/
def call {α : Type} (c : Call κ) (a : Action (Monitored W κ) α) : Action (Monitored W κ) α := do
  Action.update fun x => { x with notes := x.notes ++ [.called c x.phase] }
  a

/-- Enter a phase, with a note of it. -/
def enter (p : Phase) : Action (Monitored W κ) Unit :=
  .update fun x => { x with phase := p, notes := x.notes ++ [.wrote p] }

/-- The subscription at a place, with a note of each call of its handler. -/
def subscription (s : Subscription W κ × Nat) : Subscription (Monitored W κ) κ where
  kind := s.1.kind
  handler :=
    { name := s.1.handler.name
      handle := fun body =>
        call (.handle s.2 ⟨s.1.kind, body⟩) (cell.focus (s.1.handler.handle body)) }

/-- Calls that belong to publishing were made, all of them in the phase of the first one. -/
def Calls (x x' : Monitored W κ) : Prop :=
  x'.phase = x.phase ∧ ∃ calls : List (Call κ), (∀ c ∈ calls, c.phase = .publishing) ∧
    x'.notes = x.notes ++ calls.map (Note.called · x.phase)

/-- Where neither the phase nor the notes moved, no call was made. -/
theorem calls_of_same {x x' : Monitored W κ} (hphase : x'.phase = x.phase)
    (hnotes : x'.notes = x.notes) : Calls x x' :=
  ⟨hphase, [], by simp, by rw [hnotes, List.map_nil, List.append_nil]⟩

theorem Calls.refl (x : Monitored W κ) : Calls x x :=
  calls_of_same rfl rfl

theorem Calls.trans (x y z : Monitored W κ) (h : Calls x y) (h' : Calls y z) : Calls x z := by
  obtain ⟨hphase, calls, hcalls, hnotes⟩ := h
  obtain ⟨hphase', calls', hcalls', hnotes'⟩ := h'
  refine ⟨hphase'.trans hphase, calls ++ calls', ?_, ?_⟩
  · exact List.forall_mem_append.mpr ⟨hcalls, hcalls'⟩
  -- the second stretch names the phase at its own start, which the first one did not change
  · rw [hnotes', hnotes, hphase, List.map_append, List.append_assoc]

theorem within_focus {α : Type} (a : Action W α) :
    (cell.focus a : Action (Monitored W κ) α).Within Calls :=
  fun _ => calls_of_same rfl rfl

/-- A call of publishing, noted before whatever it does. -/
theorem within_call {α : Type} {c : Call κ} (hc : c.phase = .publishing)
    {a : Action (Monitored W κ) α} (h : a.Within Calls) : (call c a).Within Calls := by
  refine Within.bind Calls.trans (fun x => ?_) fun _ => h
  exact ⟨rfl, [c], by simpa using hc, rfl⟩

theorem actsAs_call {α : Type} (c : Call κ) {a : Action (Monitored W κ) α} {b : Action W α}
    (h : a.ActsAs cell b) : (call c a).ActsAs cell b :=
  h.after_update fun _ => rfl

/-- What is done in the world leaves phase and notes as they are, however it ends. -/
theorem focus_ensures {α : Type} (a : Action W α) (x : Monitored W κ) :
    (cell.focus a).Ensures x (fun _ x' => x'.phase = x.phase ∧ x'.notes = x.notes)
      fun _ => True := by
  rw [Ensures, run_focus]
  rcases a.run (cell.get x) with ⟨e | y, w⟩
  · trivial
  · exact ⟨rfl, rfl⟩

/-- The note of a call shows the phase at which it was made. -/
theorem call_ensures {α : Type} (c : Call κ) (a : Action W α) (x : Monitored W κ) :
    (call c (cell.focus a)).Ensures x
      (fun _ x' => x'.phase = x.phase ∧ x'.notes = x.notes ++ [.called c x.phase])
      fun _ => True := by
  rw [call, ensures_bind, ensures_update]
  exact focus_ensures a _

end Monitored

/-- The bus with its handlers monitored. -/
def Bus.monitored (b : Bus W κ) : Bus (Monitored W κ) κ :=
  ⟨b.subscriptions.zipIdx.map Monitored.subscription⟩

/-- The monitored subscriptions of a type are those of the type, monitored. -/
theorem Bus.subscribers_monitored (b : Bus W κ) (eventType : String) :
    ∃ ss : List (Subscription W κ × Nat), b.subscribers eventType = ss.map Prod.fst ∧
      b.monitored.subscribers eventType = ss.map Monitored.subscription := by
  refine ⟨b.subscriptions.zipIdx.filter fun s => s.1.eventType = eventType, ?_, ?_⟩
  · rw [Bus.subscribers]
    calc b.subscriptions.filter (fun s => s.eventType = eventType)
        = (b.subscriptions.zipIdx.map Prod.fst).filter fun s => s.eventType = eventType := by
          rw [List.zipIdx_map_fst]
      _ = _ := List.filter_map
  · rw [Bus.subscribers, Bus.monitored, List.filter_map]
    rfl

/-- What a dispatcher publishes with. -/
inductive Publisher (W κ : Type) [EventCatalog κ] where
  /-- A port of which nothing is known. -/
  | port (publish : Event κ → Action W (Except Failure Unit))
  /-- A bus with a log. -/
  | bus (b : Bus W κ) (log : Cell W (List (Event κ)))

variable [DecidableEq κ]

namespace Publisher

/-- Publish an event. -/
def publish : Publisher W κ → Event κ → Action W (Except Failure Unit)
  | .port publish => publish
  | .bus b log => b.publish log

/-- Publish an event, where the handlers of a bus are monitored. -/
def monitored : Publisher W κ → Event κ → Action (Monitored W κ) (Except Failure Unit)
  | .port publish => fun e => Monitored.cell.focus (publish e)
  | .bus b log => b.monitored.publish (Monitored.part log)

end Publisher

namespace Dispatcher

/-- The dispatcher with a publisher. -/
def publishing (d : Dispatcher W κ) (p : Publisher W κ) : Dispatcher W κ :=
  { d with publish := p.publish }

/-- The dispatcher with a publisher, monitored. -/
def monitored (d : Dispatcher W κ) (p : Publisher W κ) : Dispatcher (Monitored W κ) κ where
  outbox := {
    fetch := fun limit most =>
      Monitored.call (.fetch limit most) (Monitored.cell.focus (d.outbox.fetch limit most))
    markProcessed := fun id at_ =>
      Monitored.call (.markProcessed id at_) (Monitored.cell.focus (d.outbox.markProcessed id at_))
    recordFailure := fun id error =>
      Monitored.call (.recordFailure id error)
        (Monitored.cell.focus (d.outbox.recordFailure id error)) }
  registry := d.registry
  publish e := Monitored.call (.publish e) (p.monitored e)
  config := d.config
  setPhase q := do
    Monitored.enter q
    Monitored.cell.focus (d.setPhase q)
  cancelled x := d.cancelled x.world
  clock x := d.clock x.world

end Dispatcher

/-! ## §4 Monitoring changes nothing -/

namespace Bus

/-- A monitored subscription takes the events of its own type with one more note, and the others not
at all. -/
theorem deliver_actsAs (e : Event κ) (s : Subscription W κ × Nat) :
    ((Monitored.subscription s).deliver e).ActsAs Monitored.cell (s.1.deliver e) := by
  rcases s.1.own_or_other e with ⟨body, rfl⟩ | other
  · have hown : (Monitored.subscription s).deliver ⟨s.1.kind, body⟩ =
        (Monitored.subscription s).handler.handle body :=
      Subscription.deliver_of_own (Monitored.subscription s) body
    rw [hown, Subscription.deliver_of_own]
    exact Monitored.actsAs_call _ (actsAs_focus _ _)
  -- an event of another type never reaches the handler, so nothing is noted of it either
  · rw [Subscription.deliver_of_other other,
      Subscription.deliver_of_other (s := Monitored.subscription s) other]
    exact actsAs_pure _ _

theorem deliverAll_actsAs (e : Event κ) (ss : List (Subscription W κ × Nat)) :
    (deliverAll e (ss.map Monitored.subscription)).ActsAs Monitored.cell
      (deliverAll e (ss.map Prod.fst)) := by
  induction ss with
  | nil => exact actsAs_pure _ _
  | cons s ss ih =>
    refine (deliver_actsAs e s).bind fun answer => ih.bind fun failures => ?_
    rcases answer with f | _ <;> exact actsAs_pure _ _

/-- A bus with monitored handlers publishes as it does without. -/
theorem publish_actsAs (b : Bus W κ) (log : Cell W (List (Event κ))) (e : Event κ) :
    (b.monitored.publish (Monitored.part log) e).ActsAs Monitored.cell (b.publish log e) := by
  -- the subscribers of the type stand at the same places on both sides
  obtain ⟨ss, hplain, hmonitored⟩ := b.subscribers_monitored e.eventType
  unfold publish
  rw [hplain, hmonitored]
  refine ActsAs.bind (fun _ => ⟨rfl, rfl⟩) fun _ => ?_
  refine (deliverAll_actsAs e ss).bind fun failures => ?_
  split <;> exact actsAs_pure _ _

end Bus

/-- Whatever a dispatcher publishes with, monitoring it changes nothing. -/
theorem Publisher.monitored_actsAs (p : Publisher W κ) (e : Event κ) :
    (p.monitored e).ActsAs Monitored.cell (p.publish e) := by
  cases p with
  | port publish => exact actsAs_focus _ _
  | bus b log => exact b.publish_actsAs log e

/-- Nothing but calls of handlers is noted while an event is published. -/
theorem Publisher.monitored_within (p : Publisher W κ) (e : Event κ) :
    (p.monitored e).Within Monitored.Calls := by
  cases p with
  | port publish => exact Monitored.within_focus _
  | bus b log =>
    refine Bus.publish_within Monitored.Calls.refl Monitored.Calls.trans ?_ fun s hs body => ?_
    -- the entry in the log of the bus is no call, and each handler makes one
    · exact fun _ => Monitored.calls_of_same rfl rfl
    · obtain ⟨s, -, rfl⟩ := List.mem_map.mp hs
      exact Monitored.within_call rfl (Monitored.within_focus _)

namespace Dispatcher

variable (d : Dispatcher W κ) (p : Publisher W κ)

/-- The monitored dispatcher differs from the plain one by its notes only. -/
theorem monitored_actsThrough : (d.monitored p).ActsThrough Monitored.cell (d.publishing p) where
  registry := rfl
  config := rfl
  fetch := fun _ _ => Monitored.actsAs_call _ (actsAs_focus _ _)
  markProcessed := fun _ _ => Monitored.actsAs_call _ (actsAs_focus _ _)
  recordFailure := fun _ _ => Monitored.actsAs_call _ (actsAs_focus _ _)
  publish := fun e => Monitored.actsAs_call _ (p.monitored_actsAs e)
  setPhase := fun _ => (actsAs_focus _ _).after_update fun _ => rfl
  cancelled := fun _ => rfl
  clock := fun _ => rfl

/-! ## §5 The notes of a cycle -/

/-- A phase is entered with a note of it, whatever the port does in the world. -/
theorem monitored_setPhase (q : Phase) (x : Monitored W κ) :
    ((d.monitored p).setPhase q).Ensures x
      (fun _ x' => x'.phase = q ∧ x'.notes = x.notes ++ [.wrote q]) fun _ => True := by
  rw [monitored, ensures_bind, Monitored.enter, ensures_update]
  exact Monitored.focus_ensures _ _

/-- The fetch is called in the phase that was written just before it. -/
theorem monitored_fetchBatch (x : Monitored W κ) : (d.monitored p).fetchBatch.Ensures x
    (fun _ x' => x'.phase = .polling ∧ x'.notes = x.notes ++
      [.wrote .polling, .called (.fetch d.config.batchSize d.config.maxAttempts) .polling])
    fun _ => True := by
  rw [fetchBatch, ensures_bind]
  refine (monitored_setPhase d p .polling x).mono (fun _ y h => ?_) fun _ h => h
  obtain ⟨hphase, hnotes⟩ := h
  refine (Monitored.call_ensures _ _ y).mono (fun _ z h => ?_) fun _ h => h
  obtain ⟨hphase', hnotes'⟩ := h
  refine ⟨hphase'.trans hphase, ?_⟩
  rw [hnotes', hnotes, hphase, List.append_assoc]
  rfl

/-- Whatever becomes of a row, what is called about it belongs to publishing. -/
theorem monitored_dispatchRow (m : Message) :
    ((d.monitored p).dispatchRow m).Within Monitored.Calls := by
  refine dispatchRow_within Monitored.Calls.refl Monitored.Calls.trans ?_ ?_ ?_
  · exact fun _ => Monitored.within_call rfl (Monitored.within_focus _)
  · exact fun _ => Monitored.within_call rfl (Monitored.within_focus _)
  · exact fun e => Monitored.within_call rfl (p.monitored_within e)

theorem monitored_dispatchRows (r : DispatchReport) (ms : List Message) :
    ((d.monitored p).dispatchRows r ms).Within Monitored.Calls :=
  dispatchRows_within_of_rows Monitored.Calls.refl Monitored.Calls.trans
    (fun m _ => monitored_dispatchRow d p m) r

/-- A batch is delivered between two phases that are written before it and two behind. -/
theorem monitored_dispatchBatch (batch : List Message) (x : Monitored W κ) :
    ((d.monitored p).dispatchBatch batch).Ensures x (fun _ x' => x'.phase = .idle ∧
      ∃ calls : List (Call κ), (∀ c ∈ calls, c.phase = .publishing) ∧
        x'.notes = x.notes ++ ([.wrote .batchFetched, .wrote .publishing] ++
          calls.map (Note.called · .publishing) ++ [.wrote .batchComplete, .wrote .idle]))
      fun _ => True := by
  simp only [dispatchBatch, ensures_bind, ensures_pure]
  refine (monitored_setPhase d p _ x).mono (fun _ x₁ h => ?_) fun _ h => h
  obtain ⟨-, hnotes₁⟩ := h
  refine (monitored_setPhase d p _ x₁).mono (fun _ x₂ h => ?_) fun _ h => h
  obtain ⟨hphase₂, hnotes₂⟩ := h
  -- the rows make calls in the phase that was written last
  have hrows := ensures_world_iff.mpr
    (monitored_dispatchRows d p { fetched := batch.length } batch x₂)
  refine hrows.mono (fun report x₃ hcalls => ?_) fun _ _ => trivial
  obtain ⟨-, calls, hown, hnotes₃⟩ := hcalls
  refine (monitored_setPhase d p _ x₃).mono (fun _ x₄ h => ?_) fun _ h => h
  obtain ⟨-, hnotes₄⟩ := h
  refine (monitored_setPhase d p _ x₄).mono (fun _ x₅ h => ?_) fun _ h => h
  obtain ⟨hphase₅, hnotes₅⟩ := h
  refine ⟨hphase₅, calls, hown, ?_⟩
  rw [hnotes₅, hnotes₄, hnotes₃, hnotes₂, hnotes₁, hphase₂]
  simp only [List.append_assoc, List.cons_append, List.nil_append]

/-- Without a batch the dispatcher is idle again at once. -/
theorem monitored_handleBatch_nothing {answer : Except Failure (List Message)}
    (empty : ∀ m ms, answer ≠ .ok (m :: ms)) (x : Monitored W κ) :
    ((d.monitored p).handleBatch answer).Ensures x
      (fun _ x' => x'.phase = .idle ∧ x'.notes = x.notes ++ [.wrote .idle]) fun _ => True := by
  rcases answer with f | _ | ⟨m, ms⟩
  · rw [handleBatch, ensures_bind]
    exact monitored_setPhase d p .idle x
  · rw [handleBatch, ensures_bind]
    exact monitored_setPhase d p .idle x
  · exact absurd rfl (empty m ms)

/-- The notes of one cycle. -/
theorem monitored_noted (x : Monitored W κ) : (d.monitored p).dispatchOnce.Ensures x
    (fun _ x' => (x.phase = .idle → x'.phase = .idle) ∧
      ∃ notes, d.Noted x.world notes ∧ x'.notes = x.notes ++ notes) fun _ => True := by
  -- a refused configuration makes no note; otherwise the fetch decides between the two other forms
  cases hproblem : d.config.problem? with
  | some q =>
    have hmonitored : (d.monitored p).config.problem? = some q := hproblem
    simp only [dispatchOnce, hmonitored]
    exact ⟨id, [], .refused hproblem, (List.append_nil _).symm⟩
  | none =>
    rw [dispatchOnce_eq (d := d.monitored p) hproblem, ensures_bind]
    refine (monitored_fetchBatch d p x).with_run.mono (fun answer y h => ?_) fun _ h => h
    obtain ⟨hrun, -, hnotes⟩ := h
    -- the answer to the monitored fetch is the answer to the plain one, which the notes are named
    -- by
    have hfetch : (d.fetchBatch.run x.world).1 = .ok answer :=
      congrArg Prod.fst ((fetchBatch_actsAs (monitored_actsThrough d p)).run_ok hrun)
    by_cases hbatch : ∃ m ms, answer = .ok (m :: ms)
    · obtain ⟨m, ms, rfl⟩ := hbatch
      rw [handleBatch, ensures_bind]
      refine (monitored_dispatchBatch d p (m :: ms) y).mono (fun report z h => ?_) fun _ h => h
      obtain ⟨hphase, calls, hown, hnotes'⟩ := h
      refine ⟨fun _ => hphase, _, .delivery hproblem hfetch hown, ?_⟩
      rw [hnotes', hnotes, List.append_assoc]
      rfl
    · have hempty : ∀ m ms, answer ≠ .ok (m :: ms) := fun m ms h => hbatch ⟨m, ms, h⟩
      refine (monitored_handleBatch_nothing d p hempty y).mono (fun _ z h => ?_) fun _ h => h
      obtain ⟨hphase, hnotes'⟩ := h
      refine ⟨fun _ => hphase, _, .nothing hproblem hfetch hempty, ?_⟩
      rw [hnotes', hnotes, List.append_assoc]
      rfl

/-! ## §6 Cycles in a row -/

/-- Cycles of a monitored dispatcher, one after the other, each of which returns: the worlds in
which they began, and the monitored world at the end.  Between two cycles anything may happen to the
world. -/
inductive Cycles (d : Dispatcher W κ) (p : Publisher W κ) : List W → Monitored W κ → Prop where
  | start (w : W) : Cycles d p [] { world := w }
  | meanwhile {ws x} (w : W) (before : Cycles d p ws x) : Cycles d p ws { x with world := w }
  | cycle {ws x answer x'} (before : Cycles d p ws x)
      (run : (d.monitored p).dispatchOnce.run x = (.ok answer, x')) :
      Cycles d p (ws ++ [x.world]) x'

theorem Cycles.next {d : Dispatcher W κ} {p : Publisher W κ} {ws : List W} {x : Monitored W κ}
    {answer : Except Failure DispatchReport} (before : Cycles d p ws x)
    (returns : ((d.monitored p).dispatchOnce.run x).1 = .ok answer) :
    Cycles d p (ws ++ [x.world]) ((d.monitored p).dispatchOnce.run x).2 :=
  .cycle before (Prod.ext returns rfl)

/-- What is noted of cycles in a row: the dispatcher is idle, it has written the phases of each
cycle, and every call was made in its phase. -/
theorem Cycles.monitored {d : Dispatcher W κ} {p : Publisher W κ} {ws : List W} {x : Monitored W κ}
    (h : Cycles d p ws x) :
    x.phase = .idle ∧ written x.notes = ws.flatMap d.phases ∧ InPlace x.notes := by
  induction h with
  | start w => exact ⟨rfl, rfl, fun _ _ hmem => by cases hmem⟩
  | meanwhile w before ih => exact ih
  -- a refused cycle writes nothing: that it leaves the dispatcher idle rests on the induction
  | @cycle ws x answer x' before run ih =>
    obtain ⟨hidle, hwritten, hplace⟩ := ih
    have hreturns : ((d.monitored p).dispatchOnce.run x).1 = .ok answer := by rw [run]
    have hnoted := (monitored_noted d p x).answered hreturns
    rw [run] at hnoted
    obtain ⟨hphase, notes, hnotes, happend⟩ := hnoted
    rw [happend, written_append, hwritten, hnotes.written_eq, List.flatMap_append,
      List.flatMap_singleton]
    exact ⟨hphase hidle, rfl, inPlace_append hplace hnotes.inPlace⟩

/-- A cycle that returns does to the world what it does on its own, and leaves the dispatcher idle.
It writes no phase if the configuration is refused, two if there is nothing to deliver, and five if
there is a batch; and in any number of cycles, rows are fetched while the dispatcher is polling, and
everything else is called while it is publishing. -/
theorem dispatchOnce_phases (d : Dispatcher W κ) (p : Publisher W κ) :
    (∀ (w : W) (notes : List (Note κ)) (answer : Except Failure DispatchReport),
      ((d.publishing p).dispatchOnce.run w).1 = .ok answer →
      ∃ more, (d.monitored p).dispatchOnce.run ⟨w, .idle, notes⟩ =
          (.ok answer, ⟨((d.publishing p).dispatchOnce.run w).2, .idle, notes ++ more⟩) ∧
        written more = d.phases w ∧ InPlace more) ∧
    ∀ (ws : List W) (x : Monitored W κ), Cycles d p ws x →
      x.phase = .idle ∧ written x.notes = ws.flatMap d.phases ∧ InPlace x.notes := by
  refine ⟨fun w notes answer hreturns => ?_, fun ws x h => h.monitored⟩
  obtain ⟨hanswer, hworld⟩ := dispatchOnce_actsAs (monitored_actsThrough d p) ⟨w, .idle, notes⟩
  have hmonitored : ((d.monitored p).dispatchOnce.run ⟨w, .idle, notes⟩).1 = .ok answer :=
    hanswer.trans hreturns
  obtain ⟨hphase, more, hnoted, hnotes⟩ :=
    (monitored_noted d p ⟨w, .idle, notes⟩).answered hmonitored
  refine ⟨more, Prod.ext hmonitored ?_, hnoted.written_eq, hnoted.inPlace⟩
  -- the world, the phase and the notes at the end are known from three different lemmas
  generalize ((d.monitored p).dispatchOnce.run ⟨w, .idle, notes⟩).2 = x' at hworld hphase hnotes
  obtain ⟨world, phase, notes'⟩ := x'
  dsimp only at hphase hnotes
  rw [hphase rfl, hnotes]
  exact congrArg (Monitored.mk · .idle (notes ++ more)) hworld

private def receipt (n : Nat) : List Message :=
  (Message.ofEvent (Shop.created n) "Item" "7" (Uuid.ofNat 9) Shop.opening).toOption.toList

/-- The shop with two receipts to print. -/
private def office : Shop.Desk :=
  { Shop.desk with
    store := ((Store.commit {
      transactionId := Uuid.ofNat 9, messages := [1, 2].flatMap receipt }).run {}).2 }

private def till : Publisher Shop.Desk Shop.Kind :=
  .bus ⟨[Shop.mailer, Shop.printer]⟩ Service.logCell

/-- The dispatcher that stops as soon as something was printed. -/
private def cashier : Dispatcher Shop.Desk Shop.Kind where
  outbox := { Store.outboxAccess Service.storeCell with
    fetch := fun _ _ => .step fun w => (.ok (w.store.messages.filter Message.isPending), w) }
  registry := .ofList [.itemCreated]
  publish _ := pure (.ok ())
  config := {}
  setPhase _ := pure ()
  cancelled w := w.rest = 1
  clock _ := Shop.opening

/-- The monitored shop after a cycle of the cashier. -/
private def afterCycle (x : Monitored Shop.Desk Shop.Kind) : Monitored Shop.Desk Shop.Kind :=
  ((cashier.monitored till).dispatchOnce.run x).2

private def afterFirst : Monitored Shop.Desk Shop.Kind := afterCycle { world := office }

private def afterSecond : Monitored Shop.Desk Shop.Kind := afterCycle afterFirst

private theorem next_cashier {ws : List Shop.Desk} {x : Monitored Shop.Desk Shop.Kind}
    {answer : Except Failure DispatchReport} (before : Cycles cashier till ws x)
    (returns : ((cashier.monitored till).dispatchOnce.run x).1 = .ok answer) :
    Cycles cashier till (ws ++ [x.world]) (afterCycle x) :=
  before.next returns

private theorem cycles_cashier : Cycles cashier till [office, afterFirst.world, Shop.desk]
    (afterCycle { afterSecond with world := Shop.desk }) := by
  have hfirst : ((cashier.monitored till).dispatchOnce.run { world := office }).1 =
      .ok (.ok ⟨2, 0, 1, 0, 1⟩) := by decide +kernel
  have hsecond : ((cashier.monitored till).dispatchOnce.run afterFirst).1 =
      .ok (.ok ⟨2, 0, 0, 0, 2⟩) := by decide +kernel
  have hthird : ((cashier.monitored till).dispatchOnce.run
      { afterSecond with world := Shop.desk }).1 = .ok (.ok {}) := by decide +kernel
  have hone : Cycles cashier till [office] afterFirst := next_cashier (.start office) hfirst
  have htwo : Cycles cashier till [office, afterFirst.world] afterSecond :=
    next_cashier hone hsecond
  exact next_cashier (.meanwhile Shop.desk htwo) hthird

/-- The first cycle prints a receipt in vain and then stops, the second one stops before its first
row, and after closing time there is nothing to deliver. -/
theorem phases_of_cancelled_cycles :
    (∃ more, (cashier.monitored till).dispatchOnce.run ⟨office, .idle, []⟩ =
        (.ok (.ok ⟨2, 0, 1, 0, 1⟩),
          ⟨((cashier.publishing till).dispatchOnce.run office).2, .idle, [] ++ more⟩) ∧
      written more = cashier.phases office ∧ InPlace more) ∧
    ∃ (w : Shop.Desk) (x : Monitored Shop.Desk Shop.Kind),
      Cycles cashier till [office, w, Shop.desk] x ∧ x.phase = .idle ∧ InPlace x.notes ∧
      written x.notes =
        [.polling, .batchFetched, .publishing, .batchComplete, .idle] ++
        [.polling, .batchFetched, .publishing, .batchComplete, .idle] ++ [.polling, .idle] := by
  obtain ⟨hcycle, hcycles⟩ := dispatchOnce_phases cashier till
  have hreturns : ((cashier.publishing till).dispatchOnce.run office).1 =
      .ok (.ok ⟨2, 0, 1, 0, 1⟩) := by decide +kernel
  have hphases : [office, afterFirst.world, Shop.desk].flatMap cashier.phases =
      [.polling, .batchFetched, .publishing, .batchComplete, .idle] ++
      [.polling, .batchFetched, .publishing, .batchComplete, .idle] ++ [.polling, .idle] := by
    decide +kernel
  obtain ⟨hidle, hwritten, hplace⟩ := hcycles _ _ cycles_cashier
  exact ⟨hcycle office [] _ hreturns, _, _, cycles_cashier, hidle, hplace, hwritten.trans hphases⟩

end Dispatcher

end EventOutbox
