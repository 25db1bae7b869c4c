import EventOutbox.Proofs.Event.Registry
import EventOutbox.Proofs.Service.Accounting
import EventOutbox.Proofs.Service.Conservation

/-!
# Events survive the outbox

A faithful event that was raised, stored as a row and read back by a dispatcher is the same event,
in all of its fields.  Every row carries an event that some object raised, whatever identifiers the
events of a program have, and a dispatcher publishes for a row what its registry reads the row into.
When the registry has the event's kind registered last under its discriminator, that is the raised
event.

An event that is not faithful comes back as another one: an instant whose fraction runs past a
second within a minute comes back with the next second, and an optional field whose value is written
as null comes back without a value.

## Main statement

- `Service.events_survive`
-/

namespace EventOutbox

/-! ## §1 The event of a row -/

/-- What a dispatcher does about a row once it has published the row's event. -/
def Dispatcher.conclude {W κ : Type} [EventCatalog κ] (d : Dispatcher W κ) (m : Message) :
    Except Failure Unit → Action W RowOutcome
  | .error f => d.recordFailure m f .failed
  | .ok () => do
    let now ← Action.ask d.clock
    match ← d.outbox.markProcessed m.id now with
    | .error f => d.recordFailure m f .failed
    | .ok () => pure .published

/-- A dispatcher publishes the event that its registry reads a row into, and nothing else. -/
theorem Dispatcher.dispatchRow_of_decode {W κ : Type} [EventCatalog κ] {d : Dispatcher W κ}
    {m : Message} {e : Event κ} (h : d.registry.decode m.eventType m.payload = .ok e) :
    d.dispatchRow m = d.publish e >>= d.conclude m := by
  rw [dispatchRow, h]
  refine congrArg (d.publish e >>= ·) (funext fun answer => ?_)
  cases answer <;> rfl

/-- A row that carries a faithful event is read back into it. -/
theorem Message.Carries.decode {κ : Type} [EventCatalog κ] {m : Message} {a : Entity κ}
    {e : Event κ} (h : m.Carries a e) (hnames : (Event.shape e.kind).distinctNames = true)
    {kinds : List κ} (hlast : RegisteredLast kinds e.kind) (hfaithful : e.Faithful) :
    (Registry.ofList kinds).decode m.eventType m.payload = .ok e := by
  rw [h.eventType]
  exact (Registry.decode_payload_iff hnames hlast h.payload).mpr hfaithful

namespace Service

variable {κ ι E : Type} [EventCatalog κ]

/-! ## §2 Rows carry raised events -/

/-- What waits in a buffer was raised, and every row carries an event that some object raised. -/
structure Genuine (w : Service κ ι E) : Prop where
  sound : w.store.Sound
  waiting : ∀ i, ∀ e ∈ w.pending i, e ∈ (w.aggregates i).raised
  rows : ∀ m ∈ w.store.messages, ∃ i, ∃ e ∈ (w.aggregates i).raised,
    m.Carries (w.aggregates i).entity e

/-- A fresh service has no rows, and no event waits. -/
theorem genuine_of_fresh {w : Service κ ι E} (hw : w.Fresh) : w.Genuine where
  sound := by
    rw [hw.store]
    exact Store.sound_empty {}
  waiting := by
    intro i e he
    rw [hw.pending] at he
    cases he
  rows := by
    intro m hm
    rw [hw.store] at hm
    cases hm

/-- Old rows carry what they carried, when objects keep their keys and what they raised. -/
theorem Genuine.carried {w w' : Service κ ι E} (hw : w.Genuine)
    (raised : ∀ i, ∀ e ∈ (w.aggregates i).raised, e ∈ (w'.aggregates i).raised)
    (sameKey : ∀ i, (w.aggregates i).entity.SameKey (w'.aggregates i).entity) {m m' : Message}
    (hm : m ∈ w.store.messages) (hsame : m.SameEvent m') :
    ∃ i, ∃ e ∈ (w'.aggregates i).raised, m'.Carries (w'.aggregates i).entity e := by
  obtain ⟨i, e, he, hcarries⟩ := hw.rows m hm
  exact ⟨i, e, raised i e he, (hcarries.sameEvent hsame).sameKey (sameKey i)⟩

/-- Delivery changes no object, and of the rows only their delivery state. -/
theorem Genuine.delivered {w w' : Service κ ι E} (hw : w.Genuine) (h : w.Delivered w') :
    w'.Genuine := by
  obtain ⟨hobjects, hstore⟩ := h
  constructor
  case sound => exact hstore.sound hw.sound
  case waiting =>
    intro i
    rw [pending, hobjects]
    exact hw.waiting i
  case rows =>
    intro m' hm'
    obtain ⟨m, hm, hsame⟩ := exists_left_of_forall₂ (hstore.rows hw.sound) hm'
    refine hw.carried (fun i e he => ?_) (fun i => ?_) hm hsame
    · rw [hobjects]
      exact he
    · rw [hobjects]
      exact ⟨rfl, rfl⟩

variable [DecidableEq ι]

/-- An object may raise any event, also one with the identifier of another. -/
theorem Genuine.raise {w : Service κ ι E} (hw : w.Genuine) (i : ι) (e : Event κ) :
    (w.raise i e).Genuine := by
  constructor
  case sound => exact hw.sound
  case waiting =>
    intro j e' he'
    rw [mem_raised_raise]
    by_cases hj : j = i
    · subst hj
      rw [pending, raise_self] at he'
      -- the event waited before, or it is the one that was raised just now
      rcases List.mem_append.mp he' with hold | hnew
      · exact .inl (hw.waiting j e' hold)
      · exact .inr ⟨rfl, List.mem_singleton.mp hnew⟩
    · rw [pending, raise_of_ne hj] at he'
      exact .inl (hw.waiting j e' he')
  case rows =>
    intro m hm
    exact hw.carried (fun j e' he' => mem_raised_raise.mpr (.inl he')) (sameKey_raise i e w) hm
      (.refl m)

/-- Editing an object raises nothing and takes nothing out of its buffer. -/
theorem Genuine.edit {w : Service κ ι E} (hw : w.Genuine) {i : ι} {entity : Entity κ}
    (sameKey : (w.aggregates i).entity.SameKey entity)
    (sameBuffer : entity.buffer = (w.aggregates i).entity.buffer) : (w.edit i entity).Genuine := by
  constructor
  case sound => exact hw.sound
  case waiting =>
    intro j e he
    rw [pending_edit sameBuffer] at he
    rw [raised_edit]
    exact hw.waiting j e he
  case rows =>
    intro m hm
    refine hw.carried (fun j e he => ?_) (sameKey_edit sameKey) hm (.refl m)
    rw [raised_edit]
    exact he

omit [DecidableEq ι] in
/-- The rows that a commit adds carry events that waited. -/
theorem Genuine.captures {w w' : Service κ ι E} (hw : w.Genuine) {objects : List ι}
    {ms : List Message} (h : Captures objects ms w w') : w'.Genuine := by
  constructor
  case sound => exact h.sound hw.sound
  case waiting =>
    intro i e he
    rw [h.raised]
    by_cases hi : i ∈ objects
    · rw [h.cleared i hi] at he
      cases he
    · rw [h.waiting i hi] at he
      exact hw.waiting i e he
  case rows =>
    intro m hm
    rw [h.messages] at hm
    rcases List.mem_append.mp hm with hm | hm
    · -- a row from before
      refine hw.carried (fun i e he => ?_) h.sameKey hm (.refl m)
      rw [h.raised]
      exact he
    · obtain ⟨⟨i, e⟩, hp, hcarries, -⟩ :=
        exists_left_of_forall₂ h.rows (Store.novel_subset hm).1
      refine ⟨i, e, ?_, hcarries.sameKey (h.sameKey i)⟩
      rw [h.raised]
      exact hw.waiting i e (mem_raisedBy.mp hp).2

/-! ## §3 Steps -/

/-- A step of a program that does not see to it that its events have new identifiers. -/
inductive FreeStep : Service κ ι E → Service κ ι E → Prop where
  | raise {w : Service κ ι E} (i : ι) (e : Event κ) : FreeStep w (w.raise i e)
  | step {w w' : Service κ ι E} (h : Step w w') : FreeStep w w'

/-- Any number of such steps that log nothing. -/
structure Unlogged (w w' : Service κ ι E) : Prop where
  steps : Relation.ReflTransGen FreeStep w w'
  log : w'.log = w.log

/-- Every free step keeps the invariant. -/
theorem Genuine.step {w w' : Service κ ι E} (hw : w.Genuine) (h : FreeStep w w') :
    w'.Genuine := by
  rcases h with ⟨i, e⟩ | h
  · exact hw.raise i e
  · cases h with
    | raise i e => exact hw.raise i e
    | edit i entity sameKey sameBuffer => exact hw.edit sameKey sameBuffer
    | commit track a =>
      obtain ⟨objects, ms, -, hcaptures⟩ := commit_captures track a w
      exact hw.captures hcaptures
    | elsewhere sameObjects sameRows sameNumber =>
      exact hw.delivered ⟨sameObjects, Store.delivers_of_same_rows sameRows sameNumber⟩

/-- So do any number of steps, since what they log does not matter here. -/
theorem Genuine.unlogged {w w' : Service κ ι E} (hw : w.Genuine) (h : Unlogged w w') :
    w'.Genuine := by
  obtain ⟨hsteps, -⟩ := h
  induction hsteps with
  | refl => exact hw
  | tail _ step ih => exact ih.step step

/-- Steps take no row away. -/
theorem Unlogged.keeps {w w' : Service κ ι E} (h : Unlogged w w') : w.store.Keeps w'.store := by
  obtain ⟨hsteps, -⟩ := h
  induction hsteps with
  | refl => exact .refl _
  | tail _ step ih =>
    refine ih.trans ?_
    rcases step with ⟨i, e⟩ | step
    · exact .refl _
    · exact step.extends.keeps

/-! ## §4 Cycles -/

variable {registry : Registry κ}

/-- What was logged is what the registry reads some row into. -/
structure Sourced (registry : Registry κ) (w : Service κ ι E) : Prop where
  genuine : w.Genuine
  log : ∀ e ∈ w.log, ∃ m ∈ w.store.messages, registry.decode m.eventType m.payload = .ok e

omit [DecidableEq ι] in
/-- Rows that stay are read as before. -/
theorem Sourced.of_keeps {w w' : Service κ ι E} (hw : Sourced registry w) (genuine : w'.Genuine)
    (keeps : w.store.Keeps w'.store) (log : w'.log = w.log) : Sourced registry w' := by
  refine ⟨genuine, fun e he => ?_⟩
  rw [log] at he
  obtain ⟨m, hm, hdecode⟩ := hw.log e he
  obtain ⟨m', hm', hsame⟩ := keeps.rows hw.genuine.sound m hm
  refine ⟨m', hm', ?_⟩
  -- the registry looks at the type and the payload only, and these stay
  rw [hsame.eventType, hsame.payload]
  exact hdecode

omit [DecidableEq ι] in
/-- Delivery changes nothing of what a row is read into. -/
theorem Sourced.delivered {w w' : Service κ ι E} (hw : Sourced registry w) (h : w.Delivered w')
    (log : w'.log = w.log) : Sourced registry w' :=
  hw.of_keeps (hw.genuine.delivered h) h.2.keeps log

/-- A dispatcher that reads by one registry and logs each event that it publishes, before anything
else.  The rest of publishing may raise and commit events, and end early. -/
structure Announcing (registry : Registry κ) (d : Dispatcher (Service κ ι E) κ) : Prop where
  registry : d.registry = registry
  publish : ∃ deliver : Event κ → Action (Service κ ι E) (Except Failure Unit),
    (∀ e, (deliver e).Within Unlogged) ∧
      d.publish = fun e => do
        logCell.modify (· ++ [e])
        deliver e

variable {d : Dispatcher (Service κ ι E) κ}

/-- In the midst of a cycle that began at `w`. -/
structure Reading (registry : Registry κ) (w v : Service κ ι E) : Prop where
  sourced : Sourced registry v
  keeps : w.store.Keeps v.store

omit [DecidableEq ι] in
/-- Nor does it break the invariant of a cycle. -/
theorem Reading.delivered {w v v' : Service κ ι E} (h : Reading registry w v)
    (hdelivered : v.Delivered v') (log : v'.log = v.log) : Reading registry w v' :=
  ⟨h.sourced.delivered hdelivered log, h.keeps.trans hdelivered.2.keeps⟩

omit [DecidableEq ι] in
/-- A failed attempt does not heed what was logged. -/
theorem Reading.fails {w v : Service κ ι E} (h : Reading registry w v) (hd : Serves d)
    (m : Message) (f : Failure) (outcome : RowOutcome) :
    (d.recordFailure m f outcome).Ensures v (fun _ v' => Reading registry w v')
      (Reading registry w) := by
  rw [Dispatcher.recordFailure_ensures, hd.outbox, Action.ensures_world_iff]
  exact h.delivered ⟨rfl, Store.recordFailure_within m.id f.text v.store⟩ rfl

/-- Publishing the event of a stored row logs it, and keeps the rows. -/
theorem Reading.publish {w v : Service κ ι E} (h : Reading registry w v)
    (hd : Announcing registry d) {m : Message} (hm : m ∈ w.store.messages)
    (hs : w.store.Sound) {e : Event κ} (hdecode : registry.decode m.eventType m.payload = .ok e) :
    (d.publish e).Ensures v (fun _ v' => Reading registry w v') (Reading registry w) := by
  obtain ⟨deliver, hdeliver, hpublish⟩ := hd.publish
  obtain ⟨m', hm', hsame⟩ := h.keeps.rows hs m hm
  -- the log and the rows fit together right after the event was logged, before the handlers move
  have hlogged : Reading registry w (logged [e] v) := by
    obtain ⟨⟨hgenuine, hlog⟩, hkeeps⟩ := h
    refine ⟨⟨⟨hgenuine.sound, hgenuine.waiting, hgenuine.rows⟩, fun p hp => ?_⟩, hkeeps⟩
    rcases List.mem_append.mp hp with hp | hp
    · exact hlog p hp
    · rw [List.mem_singleton.mp hp]
      refine ⟨m', hm', ?_⟩
      rw [hsame.eventType, hsame.payload]
      exact hdecode
  rw [hpublish]
  show (deliver e).Ensures (logged [e] v) _ _
  -- the rest of publishing may do what it likes, as long as it logs nothing
  rw [Action.ensures_world_iff]
  have hrest := hdeliver e (logged [e] v)
  exact ⟨hlogged.sourced.of_keeps (hlogged.sourced.genuine.unlogged hrest) hrest.keeps hrest.log,
    hlogged.keeps.trans hrest.keeps⟩

/-- Delivering a stored row keeps the invariant, whatever publishing and marking answer, and also
when one of them ends the run. -/
theorem Reading.dispatchRow {w v : Service κ ι E} (h : Reading registry w v) (hd : Serves d)
    (hreads : Announcing registry d) {m : Message} (hm : m ∈ w.store.messages)
    (hs : w.store.Sound) :
    (d.dispatchRow m).Ensures v (fun _ v' => Reading registry w v') (Reading registry w) := by
  apply Dispatcher.dispatchRow_ensures
  · exact fun cause _ => h.fails hd m cause.failure .skipped
  · intro e hdecode
    rw [hreads.registry] at hdecode
    refine (h.publish hreads hm hs hdecode).mono (fun answer v₁ h₁ => ?_) fun _ h => h
    rcases answer with f | _
    · exact h₁.fails hd m f .failed
    -- a mark moves the row on, or meets a fault
    · have hmarked : ∀ at_ : Instant, (d.outbox.markProcessed m.id at_).Ensures v₁
          (fun _ v₂ => Reading registry w v₂) (Reading registry w) := by
        intro at_
        rw [hd.outbox, Action.ensures_world_iff]
        exact h₁.delivered (outbox_markProcessed_within m.id at_ v₁)
          (outbox_markProcessed_log m.id at_ v₁)
      refine (hmarked (d.clock v₁)).mono (fun mark v₂ h₂ => ?_) fun _ h => h
      rcases mark with f | _
      · exact h₂.fails hd m f .failed
      · exact h₂

/-- A cycle logs what the registry reads rows into, also when it ends early. -/
theorem Sourced.cycle {w : Service κ ι E} (hw : Sourced registry w) (hd : Serves d)
    (hreads : Announcing registry d) : Sourced registry (d.dispatchOnce.run w).2 := by
  have hcycle := hd.dispatchOnce_ensures (w := w) (I := fun _ v => Reading registry w v)
    (X := Reading registry w) ⟨hw, .refl _⟩ ?_ ?_
  · -- the invariant holds wherever the cycle ended
    exact hcycle.world.sourced
  · rintro visited v v' h ⟨faults, rest, rfl⟩
    exact h.delivered ⟨rfl, Store.delivers_of_same_rows rfl rfl⟩ rfl
  · intro visited m rest v hbatch h
    exact h.dispatchRow hd hreads (hd.next_in_batch hbatch).1 hw.genuine.sound

/-! ## §5 Runs -/

/-- What was logged in a run is what the registry reads stored rows into. -/
theorem sourced_of_run {h : List (List Uuid)} {w : Service κ ι E}
    (hrun : Run Unlogged (Announcing registry) h w) : Sourced registry w := by
  induction hrun with
  | start fresh =>
    refine ⟨genuine_of_fresh fresh, fun e he => ?_⟩
    rw [fresh.log] at he
    cases he
  | move _ move ih => exact ih.of_keeps (ih.genuine.unlogged move) move.keeps move.log
  | cycle _ d serves allow ih => exact ih.cycle serves allow

/-- What becomes of stored events when registries have the given kinds registered in order. -/
structure Survives (kinds : List κ) (w : Service κ ι E) : Prop where
  /-- Every row carries an event that some object raised. -/
  genuine : ∀ m ∈ w.store.messages, ∃ i, ∃ e ∈ (w.aggregates i).raised,
    m.Carries (w.aggregates i).entity e
  /-- Whatever a dispatcher is like, for the row of a faithful event whose kind is registered last
  it publishes this event, and after that it only settles the row. -/
  published : ∀ m ∈ w.store.messages, ∀ a e, m.Carries a e → RegisteredLast kinds e.kind →
    e.Faithful → ∀ d : Dispatcher (Service κ ι E) κ, d.registry = .ofList kinds →
      d.dispatchRow m = d.publish e >>= d.conclude m
  /-- What was published is the raised event of some row, if its kind is registered last and it is
  faithful. -/
  logged : ∀ p ∈ w.log, ∃ m ∈ w.store.messages,
    ∃ i, ∃ e ∈ (w.aggregates i).raised, m.Carries (w.aggregates i).entity e ∧
      (RegisteredLast kinds e.kind → e.Faithful →
        p = e ∧ p.id = m.id ∧ p.eventType = m.eventType)

/-- When the records of all events have distinct names: an event of a kind that is registered last
under its discriminator, if it has a JSON form, is stored under its identifier, and it is read back
from its row as it was raised exactly when it is faithful; and in every run, with any publishing and
any moves of the program, what dispatchers publish for the rows of faithful events are the raised
events. -/
theorem events_survive (hnames : ∀ kind : κ, (Event.shape kind).distinctNames = true)
    (kinds : List κ) :
    (∀ (e : Event κ) (j : Json), RegisteredLast kinds e.kind → e.payload = .ok j →
      ∀ (aggregateType aggregateId : String) (transactionId : Uuid) (createdAt : Instant),
        ∃ m, Message.ofEvent e aggregateType aggregateId transactionId createdAt = .ok m ∧
          m.id = e.id ∧
          ((Registry.ofList kinds).decode m.eventType m.payload = .ok e ↔ e.Faithful)) ∧
    ∀ (h : List (List Uuid)) (w : Service κ ι E),
      Run Unlogged (Announcing (.ofList kinds)) h w → Survives kinds w := by
  constructor
  · intro e j hlast hpayload aggregateType aggregateId transactionId createdAt
    rw [Message.ofEvent, hpayload]
    exact ⟨_, rfl, rfl, Registry.decode_payload_iff (hnames e.kind) hlast hpayload⟩
  · intro h w hrun
    have hw := sourced_of_run hrun
    constructor
    case genuine => exact hw.genuine.rows
    case published =>
      intro m _ a e hcarries hlast hfaithful d hd
      apply Dispatcher.dispatchRow_of_decode
      rw [hd]
      exact hcarries.decode (hnames e.kind) hlast hfaithful
    case logged =>
      intro p hp
      obtain ⟨m, hm, hdecode⟩ := hw.log p hp
      obtain ⟨i, e, he, hcarries⟩ := hw.genuine.rows m hm
      refine ⟨m, hm, i, e, he, hcarries, fun hlast hfaithful => ?_⟩
      -- the row is read into the event that was published, and into the one that it carries
      have hsame : p = e := by
        rw [hcarries.decode (hnames e.kind) hlast hfaithful] at hdecode
        exact (Except.ok.inj hdecode).symm
      subst hsame
      exact ⟨rfl, hcarries.id.symm, hcarries.eventType.symm⟩

/-- The bus of the library announces what it publishes, whatever its handlers commit. -/
theorem announcing_bus [DecidableEq κ] {bus : Bus (Service κ ι E) κ}
    (hregistry : d.registry = registry) (hpublish : d.publish = bus.publish logCell)
    (hbus : ∀ s ∈ bus.subscriptions, ∀ body, (s.handler.handle body).Within Unlogged) :
    Announcing registry d := by
  have hrefl : ∀ w : Service κ ι E, Unlogged w w := fun w => ⟨.refl, rfl⟩
  have htrans : ∀ u v w : Service κ ι E, Unlogged u v → Unlogged v w → Unlogged u w :=
    fun u v w h h' => ⟨h.steps.trans h'.steps, h'.log.trans h.log⟩
  refine ⟨hregistry, fun e => do
    let failures ← Bus.deliverAll e (bus.subscribers e.eventType)
    if failures.isEmpty then pure (.ok ())
    else pure (.error (Bus.summary e failures)), ?_, hpublish⟩
  intro e
  refine Action.Within.bind htrans (Bus.deliverAll_within hrefl htrans fun s hs => ?_)
    fun failures => ?_
  · exact hbus s (List.mem_filter.mp hs).1
  · split <;> exact Action.within_pure hrefl _

/-- A courier whose registry knew another kind under the same discriminator before. -/
private def reader : Dispatcher Shop.Desk Shop.Kind :=
  { Shop.courier ⟨[Shop.printer]⟩ with registry := .ofList [.shadowCreated, .itemCreated] }

/-- An item that appeared long ago, in a leap second. -/
private def ancient : Event Shop.Kind :=
  let leap := Instant.ofFields ⟨-44, 3, 15, by decide⟩ 23 59 59 1000005000
  ⟨.itemCreated, (Uuid.ofNat 3, (18446744073709551615 : UInt64), leap, ())⟩

private theorem faithful_ancient : ancient.Faithful :=
  ⟨trivial, trivial, fun _ => rfl, trivial⟩

/-- The event is raised twice, stored once, and published. -/
private def remembered : Shop.Desk :=
  let raised := (Shop.desk.raise true ancient).raise true ancient
  (reader.dispatchOnce.run (raised.commit [(true, .added)] Shop.purchase)).2

private theorem announcing_reader :
    Announcing (.ofList [.shadowCreated, .itemCreated]) reader := by
  refine announcing_bus rfl rfl fun s hs body w => ?_
  obtain rfl := List.mem_singleton.mp hs
  exact ⟨.single (.step (.elsewhere rfl rfl rfl)), rfl⟩

/-- The records of all kinds of the shop have distinct names. -/
private theorem distinctNames_shop (kind : Shop.Kind) :
    (Event.shape kind).distinctNames = true := by
  cases kind <;> decide

/-- An event from a leap second long ago is read back from its row, and was published as it was
raised. -/
theorem event_of_leap_second_survives :
    (∀ kind : Shop.Kind, (Event.shape kind).distinctNames = true) ∧
    ancient.Faithful ∧
    (∃ m, Message.ofEvent ancient "Item" "7" (Uuid.ofNat 9) Shop.opening = .ok m ∧
      m.id = Uuid.ofNat 3 ∧
      (Registry.ofList [Shop.Kind.shadowCreated, .itemCreated]).decode m.eventType m.payload =
        .ok ancient) ∧
    Survives [.shadowCreated, .itemCreated] remembered ∧
    remembered.log.map Event.id = [Uuid.ofNat 3] := by
  have hlast : RegisteredLast [Shop.Kind.shadowCreated, .itemCreated] ancient.kind :=
    ⟨[.shadowCreated], [], rfl, by simp⟩
  have hboth := events_survive (ι := Bool) (E := Nat) distinctNames_shop
    [Shop.Kind.shadowCreated, .itemCreated]
  obtain ⟨m, hstored, hid, hread⟩ :=
    hboth.1 ancient _ hlast rfl "Item" "7" (Uuid.ofNat 9) Shop.opening
  have hstart : Run Unlogged (Announcing (.ofList [.shadowCreated, .itemCreated])) [] Shop.desk :=
    .start Shop.fresh_desk
  have hraised := (hstart.move ⟨.single (.raise true ancient), rfl⟩).move
    ⟨.single (.raise true ancient), rfl⟩
  have hcommitted := hraised.move
    ⟨.single (.step (.commit [(true, .added)] Shop.purchase (by decide))), rfl⟩
  have hrun : Run Unlogged (Announcing (.ofList [.shadowCreated, .itemCreated])) _ remembered :=
    hcommitted.cycle reader ⟨rfl, fun _ => ⟨id, rfl⟩⟩ announcing_reader
  exact ⟨distinctNames_shop, faithful_ancient, ⟨m, hstored, hid, hread.mpr faithful_ancient⟩,
    hboth.2 _ _ hrun, by decide +kernel⟩

/-! ## §6 Events that come back as others -/

/-- An item that appeared a third of a second after second 5, counted from second 4. -/
private def overrunning : Event Shop.Kind :=
  let late := Instant.ofFields Shop.opening.date 23 56 4 1333333333
  ⟨.itemCreated, (Uuid.ofNat 3, (7 : UInt64), late, ())⟩

/-- The same item, a third of a second after second 5. -/
private def carriedOver : Event Shop.Kind :=
  let late := Instant.ofFields Shop.opening.date 23 56 5 333333333
  ⟨.itemCreated, (Uuid.ofNat 3, (7 : UInt64), late, ())⟩

/-- The only kind of events of a survey. -/
private inductive Survey where
  | answered

/-- An answer may be missing, and it may be that there is none. -/
private def Survey.fields : Fields :=
  .cons "event_id" .required .uuid <|
    .cons "answer" .required (.option (.option .text)) <|
      .cons "occurred_at" .required .instant .nil

private instance : EventCatalog Survey where
  schema
    | .answered =>
      { name := "Answered"
        discriminator := "survey.answered.v1"
        fields := Survey.fields
        id := fun v => v.1
        occurredAt := fun v => v.2.2.1 }

/-- The answer of a survey, as an event. -/
private def answered (answer : Option (Option String)) : Event Survey :=
  ⟨.answered, (Uuid.ofNat 3, answer, Shop.opening, ())⟩

/-- Two events that do not survive, although their kinds are registered last: one whose instant has
a fraction of more than a second in the middle of a minute, and one that holds an absent value in
an optional field. -/
theorem unfaithful_events_come_back_as_others :
    (RegisteredLast [Shop.Kind.itemCreated] overrunning.kind ∧
      ∃ m, Message.ofEvent overrunning "Item" "7" (Uuid.ofNat 9) Shop.opening = .ok m ∧
        (Registry.ofList [Shop.Kind.itemCreated]).decode m.eventType m.payload =
          .ok carriedOver ∧
        carriedOver.occurredAt ≠ overrunning.occurredAt) ∧
    (RegisteredLast [Survey.answered] (answered (some none)).kind ∧
      ∃ m, Message.ofEvent (answered (some none)) "Survey" "7" (Uuid.ofNat 9) Shop.opening =
          .ok m ∧
        (Registry.ofList [Survey.answered]).decode m.eventType m.payload = .ok (answered none) ∧
        answered none ≠ answered (some none)) := by
  have hitem : RegisteredLast [Shop.Kind.itemCreated] .itemCreated := ⟨[], [], rfl, by simp⟩
  have hsurvey : RegisteredLast [Survey.answered] .answered := ⟨[], [], rfl, by simp⟩
  -- either event is written like another one, which is faithful and therefore read
  have hlate : carriedOver.payload = overrunning.payload := by decide +kernel
  have hnone : (answered none).payload = (answered (some none)).payload := rfl
  refine ⟨⟨hitem, _, rfl, ?_, by decide⟩, ⟨hsurvey, _, rfl, ?_, ?_⟩⟩
  · exact (Registry.decode_payload_iff (by decide) hitem hlate).mpr
      ⟨trivial, trivial, Instant.regular_of_nano_lt (by decide), trivial⟩
  · exact (Registry.decode_payload_iff (by decide) hsurvey hnone).mpr
      ⟨trivial, trivial, Instant.regular_of_nano_lt (by decide), trivial⟩
  · intro hsame
    injection hsame with _ hbody
    cases congrArg (fun v : Survey.fields.Val => v.2.1) hbody

end Service

end EventOutbox
