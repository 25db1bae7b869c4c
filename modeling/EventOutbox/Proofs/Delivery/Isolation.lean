import EventOutbox.Proofs.Delivery.Publishing
import EventOutbox.Proofs.Service.Sample

/-!
# Handlers do not get in each other's way

What happens when a bus publishes an event, whatever its handlers do.  Every subscription of the
event's type is called once, in the order of subscription, and no call is left out because of what
others answered.  A handler is given events of its own kind only: where another kind shares the
type, the call is answered without the handler.  The answers of all calls together decide what is
reported.

## Main statements

- `Bus.deliverAll_calls`: the calls of a list of subscriptions.
- `Bus.deliverAll_observed`: which handlers are invoked on the way, and with what.
- `Bus.publish_isolates`: everything that holds of publishing an event.
-/

namespace EventOutbox

open EventOutbox.Action

variable {W κ : Type} [EventCatalog κ] {e : Event κ}

/-! ## §1 Calls -/

/-- How the call of a subscription ends that begins in a world: the answer, and the world after it.
-/
inductive Subscription.Call (e : Event κ) (s : Subscription W κ) (w : W) :
    Except Failure Unit → W → Prop where
  /-- The event is of the handler's kind, and the handler is given its values. -/
  | handled {answer w'} (body : EventBody s.kind) (own : e = ⟨s.kind, body⟩)
      (run : (s.handler.handle body).run w = (.ok answer, w')) : Call e s w answer w'
  /-- The event is of another kind.  The handler has no part in the answer. -/
  | mismatched (other : e.kind ≠ s.kind) :
      Call e s w (.error ⟨.internalError,
        s!"Handler {s.handler.name} expects {s.eventType}, got {e.eventType}", []⟩) w

namespace Bus

/-- Calls of subscriptions, each in the world that the call before it left, with their answers. -/
inductive Calls (e : Event κ) :
    W → List (Subscription W κ) → List (Except Failure Unit) → W → Prop where
  | none (w) : Calls e w [] [] w
  | next {w s answer w₁ ss answers w'} (call : s.Call e w answer w₁)
      (rest : Calls e w₁ ss answers w') : Calls e w (s :: ss) (answer :: answers) w'

/-- The run ends early in the handler of one of the subscriptions.  The calls before have been
answered, and those behind are not made. -/
inductive BreaksOff (e : Event κ) (w : W) (ss : List (Subscription W κ)) (w' : W) : Prop where
  | within {before s after answers u abort} (split : ss = before ++ s :: after)
      (calls : Calls e w before answers u) (body : EventBody s.kind) (own : e = ⟨s.kind, body⟩)
      (run : (s.handler.handle body).run u = (.error abort, w'))

/-- One more call before a run that ends early. -/
theorem BreaksOff.cons {w w₁ w' : W} {s : Subscription W κ} {answer : Except Failure Unit}
    {ss : List (Subscription W κ)} (call : s.Call e w answer w₁) (h : BreaksOff e w₁ ss w') :
    BreaksOff e w (s :: ss) w' := by
  obtain ⟨split, calls, body, own, run⟩ := h
  exact .within (by rw [split]; rfl) (.next call calls) body own run

/-- Subscriptions behind the one at which a run ends early make no difference. -/
theorem BreaksOff.append {w w' : W} {ss : List (Subscription W κ)} (h : BreaksOff e w ss w')
    (ss' : List (Subscription W κ)) : BreaksOff e w (ss ++ ss') w' := by
  obtain ⟨split, calls, body, own, run⟩ := h
  exact .within (by rw [split, List.append_assoc, List.cons_append]) calls body own run

/-- The failures among the answers, each with the name of the handler that it is reported for. -/
def failing (called : List (Subscription W κ)) (answers : List (Except Failure Unit)) :
    List (String × Failure) :=
  (called.zip answers).filterMap fun (s, answer) =>
    match answer with
    | .error f => some (s.handler.name, f)
    | .ok () => none

/-- Nothing failed when all answers are good. -/
theorem Calls.failing_eq_nil_iff {w w' : W} {ss : List (Subscription W κ)}
    {answers : List (Except Failure Unit)} (h : Calls e w ss answers w') :
    failing ss answers = [] ↔ ∀ answer ∈ answers, answer = .ok () := by
  induction h with
  | none => simp [failing]
  | @next w s answer w₁ ss answers w' call rest ih =>
    rw [List.forall_mem_cons, ← ih]
    rcases answer with f | _ <;> simp [failing]

/-! ## §2 Buses and observed handlers -/

/-- The bus after subscriptions in a row. -/
def ofList (ss : List (Subscription W κ)) : Bus W κ :=
  ss.foldl subscribe {}

/-- The subscribers of a type stand in the order of their subscription. -/
theorem subscribers_ofList (ss : List (Subscription W κ)) (eventType : String) :
    (ofList ss).subscribers eventType = ss.filter fun s => s.eventType = eventType := by
  -- subscribing appends, so the fold leaves the list behind what was there
  have hfold : ∀ b : Bus W κ, (ss.foldl subscribe b).subscriptions = b.subscriptions ++ ss := by
    intro b
    induction ss generalizing b with
    | nil => exact (List.append_nil _).symm
    | cons s ss ih => rw [List.foldl_cons, ih, subscribe, List.append_assoc, List.singleton_append]
  rw [subscribers, ofList, hfold]
  rfl

/-- The world after an event is written to the log. -/
def logged (log : Cell W (List (Event κ))) (e : Event κ) (w : W) : W :=
  log.set (log.get w ++ [e]) w

/-- What a bus answers when the failures of handlers are gathered. -/
def verdict (e : Event κ) (failures : List (String × Failure)) : Except Failure Unit :=
  if failures.isEmpty then .ok () else .error (summary e failures)

/-- What holds of an event that was published: the calls of subscriptions from the world after the
event was logged, their answers, and what the bus answers. -/
structure Published (e : Event κ) (called : List (Subscription W κ)) (u : W)
    (answers : List (Except Failure Unit)) (answer : Except Failure Unit) (w' : W) : Prop where
  calls : Calls e u called answers w'
  ok_iff : answer = .ok () ↔ ∀ a ∈ answers, a = .ok ()
  /-- One failure reports those of all handlers that failed, in the order of the calls. -/
  failed : ∀ f, answer = .error f → f = ⟨.handlerFailed,
    "Handler errors: " ++ ", ".intercalate
      ((failing called answers).map fun (name, failure) => s!"{name}: {failure.text}"),
    [("event_id", e.id.text)]⟩

/-- The answer to calls is good if all of theirs are, and otherwise tells all that failed. -/
theorem published_of_calls {called : List (Subscription W κ)} {u w' : W}
    {answers : List (Except Failure Unit)} (calls : Calls e u called answers w') :
    Published e called u answers (verdict e (failing called answers)) w' where
  calls := calls
  ok_iff := by
    rw [← calls.failing_eq_nil_iff, verdict, ← List.isEmpty_iff]
    split
    · next h => simp [h]
    · next h => simp [h]
  failed := by
    intro f hf
    rw [verdict] at hf
    split at hf
    · cases hf
    · cases hf
      rfl

end Bus

/-- A world, and the invocations of handlers so far: the place of the subscription, and the event
that the handler was given. -/
structure Observed (W κ : Type) [EventCatalog κ] where
  world : W
  seen : List (Nat × Event κ) := []

namespace Observed

/-- A part of the world as a part of the observed world. -/
def part {σ : Type} (c : Cell W σ) : Cell (Observed W κ) σ where
  get w := c.get w.world
  set x w := { w with world := c.set x w.world }
  get_set x w := c.get_set x w.world
  set_get w := by rw [c.set_get]
  set_set x y w := by rw [c.set_set]

/-- Write down an invocation. -/
def note (place : Nat) (e : Event κ) : Action (Observed W κ) Unit :=
  .update fun w => { w with seen := w.seen ++ [(place, e)] }

/-- The subscription at a place with its handler observed. -/
def subscription (s : Subscription W κ × Nat) : Subscription (Observed W κ) κ where
  kind := s.1.kind
  handler :=
    { name := s.1.handler.name
      handle := fun body => do
        note s.2 ⟨s.1.kind, body⟩
        (part .whole).focus (s.1.handler.handle body) }

/-- An observed handler writes its call down before it does anything. -/
theorem handle_run (s : Subscription W κ × Nat) (body : EventBody s.1.kind) (w : W)
    (seen : List (Nat × Event κ)) : ((subscription s).handler.handle body).run ⟨w, seen⟩ =
      (((s.1.handler.handle body).run w).1,
        ⟨((s.1.handler.handle body).run w).2, seen ++ [(s.2, ⟨s.1.kind, body⟩)]⟩) :=
  rfl

end Observed

/-- The bus after the same subscriptions with their handlers observed. -/
def Bus.observed (ss : List (Subscription W κ)) : Bus (Observed W κ) κ :=
  ofList (ss.zipIdx.map Observed.subscription)

variable [DecidableEq κ]

/-! ## §3 Single calls -/

namespace Subscription

/-- An event of the handler's kind is given to the handler. -/
theorem deliver_of_own (s : Subscription W κ) (body : EventBody s.kind) :
    s.deliver ⟨s.kind, body⟩ = s.handler.handle body :=
  dif_pos rfl

/-- An event of another kind is not given to the handler. -/
theorem deliver_of_other {s : Subscription W κ} (other : e.kind ≠ s.kind) :
    s.deliver e = pure (.error (s.mismatch e)) :=
  dif_neg other

/-- An event has values of the handler's kind, or it is of another kind. -/
theorem own_or_other (s : Subscription W κ) (e : Event κ) :
    (∃ body, e = ⟨s.kind, body⟩) ∨ e.kind ≠ s.kind := by
  by_cases h : e.kind = s.kind
  · obtain ⟨kind, body⟩ := e
    dsimp only at h
    subst h
    exact .inl ⟨body, rfl⟩
  · exact .inr h

/-- Giving an event to a subscription is a call, unless the run ends early in the handler. -/
theorem deliver_call (e : Event κ) (s : Subscription W κ) (w : W) :
    (s.deliver e).Ensures w (fun answer w' => s.Call e w answer w')
      fun w' => Bus.BreaksOff e w [s] w' := by
  rcases s.own_or_other e with ⟨body, rfl⟩ | other
  · rw [deliver_of_own, Ensures]
    split
    · next hrun => exact .handled body rfl hrun
    · next hrun =>
      have hsplit : [s] = [] ++ s :: [] := rfl
      exact .within hsplit (.none w) body rfl hrun
  · rw [deliver_of_other other, ensures_pure]
    exact .mismatched other

end Subscription

namespace Bus

/-- The invocations that an event is to cause: each subscription of its kind gets it once, in the
order of subscription. -/
def invocations (e : Event κ) (ss : List (Subscription W κ × Nat)) : List (Nat × Event κ) :=
  (ss.filter fun s => s.1.kind = e.kind).map fun s => (s.2, e)

/-- The invocations of a list are those of its first subscription, and then those of the others. -/
theorem invocations_cons (e : Event κ) (s : Subscription W κ × Nat)
    (ss : List (Subscription W κ × Nat)) :
    invocations e (s :: ss) = invocations e [s] ++ invocations e ss := by
  rw [invocations, ← List.singleton_append, List.filter_append, List.map_append]
  rfl

/-- An event causes invocations of its type's subscriptions only. -/
theorem invocations_filter (e : Event κ) (ss : List (Subscription W κ × Nat)) :
    invocations e (ss.filter fun s => s.1.eventType = e.eventType) = invocations e ss := by
  rw [invocations, invocations, List.filter_filter]
  refine congrArg _ (List.filter_congr fun s _ => ?_)
  -- a subscription of the kind has the type too, while one of the type alone is never invoked
  by_cases hkind : s.1.kind = e.kind
  · have htype : s.1.eventType = e.eventType := by
      rw [Subscription.eventType, hkind]
      rfl
    simp [hkind, htype]
  · simp [hkind]

/-- The handler of a single subscription is invoked if the event is of its kind. -/
theorem deliver_observed (e : Event κ) (s : Subscription W κ × Nat) (w : W)
    (seen : List (Nat × Event κ)) : ((Observed.subscription s).deliver e).run ⟨w, seen⟩ =
      (((s.1.deliver e).run w).1, ⟨((s.1.deliver e).run w).2, seen ++ invocations e [s]⟩) := by
  rcases s.1.own_or_other e with ⟨body, rfl⟩ | other
  · have hinvoked : invocations ⟨s.1.kind, body⟩ [s] = [(s.2, ⟨s.1.kind, body⟩)] := by
      simp [invocations]
    rw [hinvoked, Subscription.deliver_of_own, ← Observed.handle_run]
    exact congrArg (·.run ⟨w, seen⟩) (Subscription.deliver_of_own (Observed.subscription s) body)
  · have hpassed : invocations e [s] = [] := by
      simp [invocations, Ne.symm other]
    rw [hpassed, List.append_nil, Subscription.deliver_of_other other,
      Subscription.deliver_of_other (s := Observed.subscription s) other]
    rfl

/-! ## §4 Calls one after the other -/

/-- Giving an event to subscriptions calls all of them, and gathers the failures. -/
theorem deliverAll_calls (e : Event κ) (ss : List (Subscription W κ)) (w : W) :
    (deliverAll e ss).Ensures w
      (fun failures w' => ∃ answers, Calls e w ss answers w' ∧ failures = failing ss answers)
      fun w' => BreaksOff e w ss w' := by
  -- on the subscriptions: the first one is called, and then the others, whatever it answered
  induction ss generalizing w with
  | nil => exact ⟨[], .none w, rfl⟩
  | cons s ss ih =>
    rw [deliverAll, ensures_bind]
    refine (s.deliver_call e w).mono (fun answer w₁ call => ?_) fun w' h => h.append ss
    rw [ensures_bind]
    refine (ih w₁).mono (fun failures w' h => ?_) fun _ h => h.cons call
    obtain ⟨answers, calls, rfl⟩ := h
    rcases answer with f | _
    · exact ⟨_, .next call calls, rfl⟩
    · exact ⟨_, .next call calls, rfl⟩

/-- Observing handlers changes nothing else.  What is seen are the invocations that the event is to
cause, or the first of them if the run ends early. -/
theorem deliverAll_observed (e : Event κ) (ss : List (Subscription W κ × Nat)) (w : W)
    (seen : List (Nat × Event κ)) : ∃ more,
      (deliverAll e (ss.map Observed.subscription)).run ⟨w, seen⟩ =
        (((deliverAll e (ss.map Prod.fst)).run w).1,
          ⟨((deliverAll e (ss.map Prod.fst)).run w).2, seen ++ more⟩) ∧
      more <+: invocations e ss ∧
      ∀ failures, ((deliverAll e (ss.map Prod.fst)).run w).1 = .ok failures →
        more = invocations e ss := by
  -- on the subscriptions, for any world and any notes: each call changes both
  induction ss generalizing w seen with
  | nil => exact ⟨[], by rw [List.append_nil]; rfl, List.nil_prefix, fun _ _ => rfl⟩
  | cons s ss ih =>
    rw [List.map_cons, List.map_cons, deliverAll, deliverAll, run_bind, run_bind,
      deliver_observed, invocations_cons e s ss]
    rcases (s.1.deliver e).run w with ⟨abort | answer, w₁⟩
    · exact ⟨_, rfl, List.prefix_append _ _, fun _ hok => by cases hok⟩
    · -- the others are observed from the world that this call left
      dsimp only
      obtain ⟨more, hrun, hprefix, hall⟩ := ih w₁ (seen ++ invocations e [s])
      refine ⟨invocations e [s] ++ more, ?_, (List.prefix_append_right_inj _).mpr hprefix, ?_⟩
      · rw [run_bind, run_bind, hrun, ← List.append_assoc]
        rcases (deliverAll e (ss.map Prod.fst)).run w₁ with ⟨abort | failures, w'⟩
        · rfl
        · rcases answer with f | _ <;> rfl
      · intro failures hok
        rw [run_bind] at hok
        rcases hrest : (deliverAll e (ss.map Prod.fst)).run w₁ with ⟨abort | rest, w'⟩
        · rw [hrest] at hok
          cases hok
        · rw [hall rest (by rw [hrest])]

/-! ## §5 Publishing -/

/-- Publishing writes the event to the log and gives it to the subscribers, and then answers. -/
theorem publish_run (b : Bus W κ) (log : Cell W (List (Event κ))) (e : Event κ) (w : W) :
    (b.publish log e).run w =
      match (deliverAll e (b.subscribers e.eventType)).run (logged log e w) with
      | (.ok failures, w') => (.ok (verdict e failures), w')
      | (.error abort, w') => (.error abort, w') := by
  rw [publish, Cell.modify, run_bind_of_ok (run_update _ w), run_bind, logged]
  rcases (deliverAll e (b.subscribers e.eventType)).run (log.set (log.get w ++ [e]) w) with
    ⟨abort | failures, w'⟩
  · rfl
  · dsimp only
    rw [verdict]
    split <;> rfl

/-- What holds of publishing an event on the bus of some subscriptions. -/
structure Isolated (ss : List (Subscription W κ)) (log : Cell W (List (Event κ))) (e : Event κ)
    (w : W) : Prop where
  /-- The event is logged first.  Then its type's subscriptions are called, each of them once,
  unless the run ends early within a handler. -/
  called : ((ofList ss).publish log e).Ensures w
    (fun answer w' => ∃ answers,
      Published e (ss.filter fun s => s.eventType = e.eventType) (logged log e w) answers answer w')
    fun w' => BreaksOff e (logged log e w) (ss.filter fun s => s.eventType = e.eventType) w'
  /-- Where handlers leave the log alone, it has got the event once, however the run ends. -/
  once : (∀ s ∈ ss, ∀ body v, log.get ((s.handler.handle body).run v).2 = log.get v) →
    log.get (((ofList ss).publish log e).run w).2 = log.get w ++ [e]
  /-- The handlers that are invoked on the way are those of the event's kind. -/
  invoked : ∃ seen, ((observed ss).publish (Observed.part log) e).run ⟨w, []⟩ =
      ((((ofList ss).publish log e).run w).1, ⟨(((ofList ss).publish log e).run w).2, seen⟩) ∧
    seen <+: invocations e ss.zipIdx ∧
    ∀ answer, (((ofList ss).publish log e).run w).1 = .ok answer → seen = invocations e ss.zipIdx

/-- Whatever subscriptions there are, and however their handlers behave, publishing an event is
isolated from its handlers' failures. -/
theorem publish_isolates (ss : List (Subscription W κ)) (log : Cell W (List (Event κ)))
    (e : Event κ) (w : W) : Isolated ss log e w := by
  have hsubscribers := subscribers_ofList ss e.eventType
  have hrun := publish_run (ofList ss) log e w
  rw [hsubscribers] at hrun
  constructor
  case called =>
    have hcalls :=
      deliverAll_calls e (ss.filter fun s => s.eventType = e.eventType) (logged log e w)
    rw [Ensures, hrun]
    rw [Ensures] at hcalls
    split at hcalls
    · next hdeliver =>
      obtain ⟨answers, calls, rfl⟩ := hcalls
      rw [hdeliver]
      exact ⟨answers, published_of_calls calls⟩
    · next hdeliver =>
      rw [hdeliver]
      exact hcalls
  case once =>
    intro spare
    -- the subscribers are among the subscriptions, each of which leaves the log alone
    have hwithin : (deliverAll e (ss.filter fun s => s.eventType = e.eventType)).Within
        fun v v' => log.get v' = log.get v := by
      apply deliverAll_within
      case refl => exact fun _ => rfl
      case trans => exact fun _ _ _ h h' => h'.trans h
      case h => exact fun s hs => spare s (List.mem_filter.mp hs).1
    have hdeliver := hwithin (logged log e w)
    have hlogged : log.get (logged log e w) = log.get w ++ [e] := log.get_set _ _
    rw [hrun, ← hlogged, ← hdeliver]
    split <;> next heq => rw [heq]
  case invoked =>
    -- places are given before the subscribers of the type are picked out
    have hplaces : ss.filter (fun s => s.eventType = e.eventType) =
        (ss.zipIdx.filter fun s => s.1.eventType = e.eventType).map Prod.fst := by
      calc ss.filter (fun s => s.eventType = e.eventType)
          = (ss.zipIdx.map Prod.fst).filter fun s => s.eventType = e.eventType := by
            rw [List.zipIdx_map_fst]
        _ = _ := List.filter_map
    have hobserved : (observed ss).subscribers e.eventType =
        (ss.zipIdx.filter fun s => s.1.eventType = e.eventType).map Observed.subscription := by
      rw [observed, subscribers_ofList, List.filter_map]
      rfl
    obtain ⟨more, hmore, hprefix, hall⟩ := deliverAll_observed e
      (ss.zipIdx.filter fun s => s.1.eventType = e.eventType) (logged log e w) []
    rw [← hplaces] at hmore hall
    rw [invocations_filter] at hprefix hall
    refine ⟨more, ?_, hprefix, fun answer hanswer => ?_⟩
    · have hlogged : logged (Observed.part log) e (⟨w, []⟩ : Observed W κ) =
          ⟨logged log e w, []⟩ := rfl
      rw [publish_run, hobserved, hlogged, hmore, hrun, List.nil_append]
      rcases (deliverAll e (ss.filter fun s => s.eventType = e.eventType)).run (logged log e w) with
        ⟨abort | failures, w'⟩ <;> rfl
    · rw [hrun] at hanswer
      split at hanswer
      · next failures w' heq => exact hall failures (by rw [heq])
      · cases hanswer

/-- Handlers of one type and one of another: the printer fails, and the shade is for another kind of
events than those that appear in the shop. -/
private def counter : List (Subscription Shop.Desk Shop.Kind) :=
  [Shop.printer, ⟨.shadowCreated, ⟨"shade", fun _ => pure (.ok ())⟩⟩,
    ⟨.itemRenamed, ⟨"labels", fun _ => pure (.ok ())⟩⟩, Shop.mailer]

/-- Two of four subscriptions fail, of which one handler was not invoked, and the last one is called
as if nothing had happened. -/
theorem last_subscription_called_after_failures :
    (((ofList counter).publish Service.logCell (Shop.created 1)).run Shop.desk).1 = .ok (.error
      ⟨.handlerFailed, "Handler errors: printer: [INTERNAL_ERROR] out of paper, " ++
        "shade: [INTERNAL_ERROR] Handler shade expects item.created.v1, got item.created.v1",
        [("event_id", "00000000-0000-0000-0000-000000000001")]⟩) ∧
    (((observed counter).publish (Observed.part Service.logCell) (Shop.created 1)).run
      ⟨Shop.desk, []⟩).2.seen.map (fun i => (i.1, i.2.id)) =
        [(0, Uuid.ofNat 1), (3, Uuid.ofNat 1)] ∧
    Isolated counter Service.logCell (Shop.created 1) Shop.desk :=
  ⟨rfl, by decide +kernel, publish_isolates _ _ _ _⟩

end Bus

end EventOutbox
