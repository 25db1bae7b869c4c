import EventOutbox.Proofs.Service.Cycles
import EventOutbox.Proofs.Service.Sample
import EventOutbox.Proofs.Service.Steps

/-!
# Conservation of events

Between objects and outbox no event is lost, invented, duplicated or reordered.  The invariant says
of each object that the events it raised are those of its rows, in the order of the outbox, followed
by those that still wait; and of each row that it carries an event that some object raised.  Commits
move the waiting events of an object behind its rows, all of them at once, and delivery leaves what
a row carries as it is.

## Main statement

- `Service.events_conserved`
-/

namespace EventOutbox.Service

variable {κ ι E : Type} [EventCatalog κ]

/-! ## §1 The invariant -/

/-- The rows of the events that an object raised, in the order of the outbox. -/
def rowsOf (i : ι) (w : Service κ ι E) : List Message :=
  w.store.messages.filter fun m => m.id ∈ (w.aggregates i).raised.map Event.id

/-- Identifiers of raised events are distinct, rows carry raised events, and the events of each
object are those of its rows followed by the waiting ones. -/
structure Conserving (w : Service κ ι E) : Prop where
  sound : w.store.Sound
  distinct : ∀ i, ((w.aggregates i).raised.map Event.id).Nodup
  apart : ∀ {i j e e'}, e ∈ (w.aggregates i).raised → e' ∈ (w.aggregates j).raised →
    e.id = e'.id → i = j
  rows : ∀ m ∈ w.store.messages, ∃ i, ∃ e ∈ (w.aggregates i).raised,
    m.Carries (w.aggregates i).entity e
  order : ∀ i, ∃ stored, (w.aggregates i).raised = stored ++ w.pending i ∧
    List.Forall₂ (fun e m => m.Carries (w.aggregates i).entity e) stored (w.rowsOf i)

/-- A waiting event was raised by the object in whose buffer it waits. -/
theorem Conserving.raised_of_pending {w : Service κ ι E} (hw : w.Conserving) {i : ι} {e : Event κ}
    (he : e ∈ w.pending i) : e ∈ (w.aggregates i).raised := by
  obtain ⟨stored, hraised, -⟩ := hw.order i
  rw [hraised]
  exact List.mem_append_right _ he

/-- An event that still waits has no row. -/
theorem Conserving.not_stored {w : Service κ ι E} (hw : w.Conserving) {i : ι} {e : Event κ}
    (he : e ∈ w.pending i) {m : Message} (hm : m ∈ w.store.messages) : m.id ≠ e.id := by
  intro hid
  obtain ⟨stored, hraised, halign⟩ := hw.order i
  -- the row would be one of the object's own, and carry an event that does not wait
  have hown : m ∈ w.rowsOf i := by
    rw [rowsOf, List.mem_filter]
    exact ⟨hm, decide_eq_true (hid ▸ List.mem_map_of_mem (hw.raised_of_pending he))⟩
  obtain ⟨e', he', hcarries⟩ := exists_left_of_forall₂ halign hown
  have hdistinct := hw.distinct i
  rw [hraised, List.map_append, List.nodup_append] at hdistinct
  have hne := hdistinct.2.2 e'.id (List.mem_map_of_mem he') e.id (List.mem_map_of_mem he)
  exact hne (hcarries.id.symm.trans hid)

/-- Nothing was raised or stored yet in a fresh service. -/
theorem conserving_of_fresh {w : Service κ ι E} (hw : w.Fresh) : w.Conserving := by
  have hmessages : w.store.messages = [] := by
    rw [hw.store]
    rfl
  constructor
  case sound =>
    rw [hw.store]
    exact Store.sound_empty {}
  case distinct =>
    intro i
    rw [hw.raised]
    exact List.nodup_nil
  case apart =>
    intro i j e e' he
    rw [hw.raised] at he
    simp at he
  case rows =>
    intro m hm
    simp [hmessages] at hm
  case order =>
    intro i
    refine ⟨[], ?_, ?_⟩
    · rw [hw.raised, hw.pending, List.append_nil]
    · rw [rowsOf, hmessages]
      exact .nil

/-! ## §2 Steps that capture nothing -/

/-- The invariant does not heed the delivery state of rows, nor what an object is apart from its key
and its events. -/
theorem Conserving.congr {w w' : Service κ ι E} (hw : w.Conserving) (sound : w'.store.Sound)
    (rows : List.Forall₂ Message.SameEvent w.store.messages w'.store.messages)
    (raised : ∀ i, (w'.aggregates i).raised = (w.aggregates i).raised)
    (pending : ∀ i, w'.pending i = w.pending i)
    (sameKey : ∀ i, (w.aggregates i).entity.SameKey (w'.aggregates i).entity) :
    w'.Conserving := by
  constructor
  case sound => exact sound
  case distinct =>
    intro i
    rw [raised]
    exact hw.distinct i
  case apart =>
    intro i j e e' he he'
    rw [raised] at he he'
    exact hw.apart he he'
  case rows =>
    intro m' hm'
    obtain ⟨m, hm, hsame⟩ := exists_left_of_forall₂ rows hm'
    obtain ⟨i, e, he, hcarries⟩ := hw.rows m hm
    rw [← raised] at he
    exact ⟨i, e, he, (hcarries.sameEvent hsame).sameKey (sameKey i)⟩
  case order =>
    intro i
    obtain ⟨stored, hraised, halign⟩ := hw.order i
    refine ⟨stored, by rw [raised, pending, hraised], ?_⟩
    -- the filter looks at identifiers only, and delivery changes none
    have hrows : List.Forall₂ Message.SameEvent (w.rowsOf i) (w'.rowsOf i) := by
      rw [rowsOf, rowsOf, raised]
      refine List.rel_filter (fun m m' hsame => ?_) rows
      dsimp only
      rw [hsame.id]
    exact forall₂_comp (fun e m m' hcarries hsame =>
      (hcarries.sameEvent hsame).sameKey (sameKey i)) halign hrows

/-- Delivery does not touch what the invariant speaks of. -/
theorem Conserving.delivered {w w' : Service κ ι E} (hw : w.Conserving) (h : w.Delivered w') :
    w'.Conserving := by
  obtain ⟨hobjects, hstore⟩ := h
  refine hw.congr (hstore.sound hw.sound) (hstore.rows hw.sound) ?_ ?_ ?_
  · intro i
    rw [hobjects]
  · intro i
    rw [pending, pending, hobjects]
  · intro i
    rw [hobjects]
    exact ⟨rfl, rfl⟩

/-- Neither does anything that leaves objects and outbox alone. -/
theorem Conserving.elsewhere {w w' : Service κ ι E} (hw : w.Conserving)
    (sameObjects : w'.aggregates = w.aggregates) (sameRows : w'.store.outbox = w.store.outbox)
    (sameNumber : w'.store.nextSeq = w.store.nextSeq) : w'.Conserving :=
  hw.delivered ⟨sameObjects, Store.delivers_of_same_rows sameRows sameNumber⟩

variable [DecidableEq ι]

/-- Editing an object changes nothing of what it raised. -/
theorem raised_edit (i : ι) (entity : Entity κ) (w : Service κ ι E) (j : ι) :
    ((w.edit i entity).aggregates j).raised = (w.aggregates j).raised := by
  by_cases hj : j = i
  · subst hj
    simp [Service.edit]
  · simp [Service.edit, hj]

/-- The same events wait, when the object keeps its buffer. -/
theorem pending_edit {i : ι} {entity : Entity κ} {w : Service κ ι E}
    (sameBuffer : entity.buffer = (w.aggregates i).entity.buffer) (j : ι) :
    (w.edit i entity).pending j = w.pending j := by
  by_cases hj : j = i
  · subst hj
    simp [Service.edit, pending, sameBuffer]
  · simp [Service.edit, pending, hj]

/-- All objects have their keys still, when the edited one keeps its own. -/
theorem sameKey_edit {i : ι} {entity : Entity κ} {w : Service κ ι E}
    (sameKey : (w.aggregates i).entity.SameKey entity) (j : ι) :
    (w.aggregates j).entity.SameKey ((w.edit i entity).aggregates j).entity := by
  by_cases hj : j = i
  · subst hj
    simpa [Service.edit] using sameKey
  · simp only [Service.edit, Function.update_of_ne hj]
    exact ⟨rfl, rfl⟩

/-- An object may be edited as long as it keeps its key and its buffer. -/
theorem Conserving.edit {w : Service κ ι E} (hw : w.Conserving) {i : ι} {entity : Entity κ}
    (sameKey : (w.aggregates i).entity.SameKey entity)
    (sameBuffer : entity.buffer = (w.aggregates i).entity.buffer) :
    (w.edit i entity).Conserving :=
  hw.congr hw.sound (List.forall₂_same.mpr fun m _ => .refl m) (raised_edit i entity w)
    (pending_edit sameBuffer) (sameKey_edit sameKey)

theorem raise_self (i : ι) (e : Event κ) (w : Service κ ι E) :
    (w.raise i e).aggregates i = (w.aggregates i).raise e := by
  simp [Service.raise]

theorem raise_of_ne {i j : ι} (hj : j ≠ i) (e : Event κ) (w : Service κ ι E) :
    (w.raise i e).aggregates j = w.aggregates j := by
  simp [Service.raise, hj]

/-- Raising an event renames no object. -/
theorem sameKey_raise (i : ι) (e : Event κ) (w : Service κ ι E) (j : ι) :
    (w.aggregates j).entity.SameKey ((w.raise i e).aggregates j).entity := by
  by_cases hj : j = i
  · subst hj
    rw [raise_self]
    exact ⟨rfl, rfl⟩
  · rw [raise_of_ne hj]
    exact ⟨rfl, rfl⟩

/-- The events that were raised before are raised still, and only the new one is added. -/
theorem mem_raised_raise {i j : ι} {e e' : Event κ} {w : Service κ ι E} :
    e' ∈ ((w.raise i e).aggregates j).raised ↔
      e' ∈ (w.aggregates j).raised ∨ (j = i ∧ e' = e) := by
  by_cases hj : j = i
  · subst hj
    simp [raise_self, Aggregate.raise]
  · simp [raise_of_ne hj, hj]

/-- The events of an object have distinct identifiers after it raised a new one. -/
theorem Conserving.distinct_raise {w : Service κ ι E} (hw : w.Conserving) {i : ι} {e : Event κ}
    (new : ∀ j, ∀ e' ∈ (w.aggregates j).raised, e'.id ≠ e.id) (j : ι) :
    (((w.raise i e).aggregates j).raised.map Event.id).Nodup := by
  by_cases hj : j = i
  · subst hj
    rw [raise_self, Aggregate.raise, List.map_append, List.nodup_append]
    refine ⟨hw.distinct j, List.nodup_singleton _, fun a ha b hb => ?_⟩
    obtain ⟨e', he', rfl⟩ := List.mem_map.mp ha
    rw [List.map_singleton, List.mem_singleton] at hb
    exact hb ▸ new j e' he'
  · rw [raise_of_ne hj]
    exact hw.distinct j

/-- No row is about an event with a new identifier. -/
theorem Conserving.rowsOf_raise {w : Service κ ι E} (hw : w.Conserving) {i : ι} {e : Event κ}
    (new : ∀ j, ∀ e' ∈ (w.aggregates j).raised, e'.id ≠ e.id) (j : ι) :
    (w.raise i e).rowsOf j = w.rowsOf j := by
  refine List.filter_congr fun m hm => ?_
  -- the row carries an event that was raised before, and the new one differs from it
  obtain ⟨k, e', he', hcarries⟩ := hw.rows m hm
  have hne : m.id ≠ e.id := hcarries.id ▸ new k e' he'
  rw [decide_eq_decide]
  simp only [List.mem_map, mem_raised_raise]
  constructor
  · rintro ⟨a, ha | ⟨-, rfl⟩, hid⟩
    · exact ⟨a, ha, hid⟩
    · exact absurd hid.symm hne
  · rintro ⟨a, ha, hid⟩
    exact ⟨a, .inl ha, hid⟩

/-- A raised event waits behind those of its object. -/
theorem Conserving.raise {w : Service κ ι E} (hw : w.Conserving) {i : ι} {e : Event κ}
    (new : ∀ j, ∀ e' ∈ (w.aggregates j).raised, e'.id ≠ e.id) : (w.raise i e).Conserving := by
  constructor
  case sound => exact hw.sound
  case distinct => exact hw.distinct_raise new
  case apart =>
    intro j k e₁ e₂ h₁ h₂ hid
    -- two old events, the new one with an old one, or the new one twice
    rcases mem_raised_raise.mp h₁ with hold₁ | ⟨rfl, rfl⟩ <;>
      rcases mem_raised_raise.mp h₂ with hold₂ | ⟨rfl, rfl⟩
    · exact hw.apart hold₁ hold₂ hid
    · exact absurd hid (new j e₁ hold₁)
    · exact absurd hid.symm (new k e₂ hold₂)
    · rfl
  case rows =>
    intro m hm
    obtain ⟨j, e', he', hcarries⟩ := hw.rows m hm
    exact ⟨j, e', mem_raised_raise.mpr (.inl he'), hcarries.sameKey (sameKey_raise i e w j)⟩
  -- the new event goes to the end of the buffer, and the rows of the object stay the same
  case order =>
    intro j
    obtain ⟨stored, hraised, halign⟩ := hw.order j
    refine ⟨stored, ?_, ?_⟩
    · by_cases hj : j = i
      · subst hj
        rw [pending, raise_self, Aggregate.raise, hraised, List.append_assoc]
        rfl
      · rw [pending, raise_of_ne hj]
        exact hraised
    · rw [hw.rowsOf_raise new]
      exact halign.imp fun e' m hcarries => hcarries.sameKey (sameKey_raise i e w j)

/-! ## §3 Commits -/

omit [DecidableEq ι] in
theorem mem_raisedBy {objects : List ι} {w : Service κ ι E} {p : ι × Event κ} :
    p ∈ w.raisedBy objects ↔ p.1 ∈ objects ∧ p.2 ∈ w.pending p.1 := by
  obtain ⟨i, e⟩ := p
  simp only [raisedBy, List.mem_flatMap, List.mem_map, Prod.mk.injEq]
  constructor
  · rintro ⟨j, hj, e', he', rfl, rfl⟩
    exact ⟨hj, he'⟩
  · rintro ⟨hi, he⟩
    exact ⟨i, hi, e, he, rfl, rfl⟩

/-- Of the events that a commit captures, those of one object are its waiting ones, in order. -/
theorem filter_raisedBy {objects : List ι} (hnodup : objects.Nodup) (w : Service κ ι E) (i : ι) :
    (w.raisedBy objects).filter (fun p => p.1 = i) =
      if i ∈ objects then (w.pending i).map fun e => (i, e) else [] := by
  induction objects with
  | nil => rfl
  | cons j objects ih =>
    rw [List.nodup_cons] at hnodup
    have hcons : w.raisedBy (j :: objects) =
        ((w.pending j).map fun e => (j, e)) ++ w.raisedBy objects := rfl
    rw [hcons, List.filter_append, ih hnodup.2]
    by_cases hj : j = i
    · subst hj
      simp [hnodup.1, List.filter_map, Function.comp_def]
    · simp [hj, Ne.symm hj, List.filter_map, Function.comp_def]

omit [DecidableEq ι] in
/-- Captured events have distinct identifiers. -/
theorem Conserving.nodup_raisedBy {w : Service κ ι E} (hw : w.Conserving) {objects : List ι}
    (hnodup : objects.Nodup) : ((w.raisedBy objects).map fun p => p.2.id).Nodup := by
  induction objects with
  | nil => exact List.nodup_nil
  | cons i objects ih =>
    rw [List.nodup_cons] at hnodup
    have hcons : w.raisedBy (i :: objects) =
        ((w.pending i).map fun e => (i, e)) ++ w.raisedBy objects := rfl
    have hpending : ((w.pending i).map Event.id).Nodup := by
      obtain ⟨stored, hraised, -⟩ := hw.order i
      have hdistinct := hw.distinct i
      rw [hraised, List.map_append] at hdistinct
      exact hdistinct.of_append_right
    rw [hcons, List.map_append, List.map_map, List.nodup_append]
    refine ⟨hpending, ih hnodup.2, fun a ha b hb hab => ?_⟩
    obtain ⟨e, he, rfl⟩ := List.mem_map.mp ha
    obtain ⟨⟨j, e'⟩, hp, rfl⟩ := List.mem_map.mp hb
    -- one identifier in two buffers would belong to one object, which is not tracked twice
    obtain ⟨hj, he'⟩ := mem_raisedBy.mp hp
    have hij : i = j := hw.apart (hw.raised_of_pending he) (hw.raised_of_pending he') hab
    exact hnodup.1 (hij ▸ hj)

omit [DecidableEq ι] in
/-- All captured events get a row. -/
theorem Conserving.novel_eq {w w' : Service κ ι E} (hw : w.Conserving) {objects : List ι}
    {ms : List Message} (hnodup : objects.Nodup) (h : Captures objects ms w w') :
    Store.novel w.store.ids ms = ms := by
  -- the rows captured have the identifiers of the events, in their order
  have hids : ms.map Message.id = (w.raisedBy objects).map fun p => p.2.id := by
    have hsame := h.rows.imp fun p m hm => hm.1.id
    rw [← List.forall₂_eq_eq_eq, List.forall₂_map_left_iff, List.forall₂_map_right_iff]
    exact hsame.flip
  refine Store.novel_eq_self ?_
  rw [hids, List.nodup_append]
  refine ⟨hw.sound.ids_nodup, hw.nodup_raisedBy hnodup, fun a ha b hb hab => ?_⟩
  obtain ⟨m, hm, rfl⟩ := Store.mem_ids_iff.mp ha
  obtain ⟨p, hp, rfl⟩ := List.mem_map.mp hb
  -- an event that waits has no row yet
  exact hw.not_stored (mem_raisedBy.mp hp).2 hm hab

/-- Of the captured rows, those of one object carry its waiting events, in order. -/
theorem Conserving.rows_captured {w w' : Service κ ι E} (hw : w.Conserving) {objects : List ι}
    {ms : List Message} (hnodup : objects.Nodup) (h : Captures objects ms w w') (i : ι) :
    List.Forall₂ (fun e m => m.Carries (w.aggregates i).entity e)
      (if i ∈ objects then w.pending i else [])
      (ms.filter fun m => m.id ∈ (w.aggregates i).raised.map Event.id) := by
  have hrows : List.Forall₂
      (fun p m => p ∈ w.raisedBy objects ∧ m.Carries (w.aggregates p.1).entity p.2)
      (w.raisedBy objects) ms :=
    List.forall₂_and_left _ _ |>.mpr ⟨fun _ hp => hp, h.rows.imp fun _ _ hm => hm.1⟩
  -- a captured row is the object's own just when its event was captured from the object
  have hfilter := List.rel_filter (p := fun p => decide (p.1 = i))
    (q := fun m => decide (m.id ∈ (w.aggregates i).raised.map Event.id)) ?_ hrows
  · rw [filter_raisedBy hnodup] at hfilter
    split
    · next hi =>
      rw [if_pos hi, List.forall₂_map_left_iff] at hfilter
      exact hfilter.imp fun e m hm => hm.2
    · next hi =>
      rw [if_neg hi] at hfilter
      rw [List.forall₂_nil_left_iff.mp hfilter]
      exact .nil
  · rintro ⟨j, e⟩ m ⟨hp, hcarries⟩
    have he := hw.raised_of_pending (mem_raisedBy.mp hp).2
    simp only [decide_eq_true_eq, hcarries.id]
    constructor
    · rintro rfl
      exact List.mem_map_of_mem he
    · intro hown
      obtain ⟨e', he', hid⟩ := List.mem_map.mp hown
      exact hw.apart he he' hid.symm

/-- A commit moves the waiting events of the captured objects behind their rows. -/
theorem Conserving.captures {w w' : Service κ ι E} (hw : w.Conserving) {objects : List ι}
    {ms : List Message} (hnodup : objects.Nodup) (h : Captures objects ms w w') :
    w'.Conserving := by
  have hmessages : w'.store.messages = w.store.messages ++ ms := by
    rw [h.messages, hw.novel_eq hnodup h]
  constructor
  case sound => exact h.sound hw.sound
  case distinct =>
    intro i
    rw [h.raised]
    exact hw.distinct i
  case apart =>
    intro i j e e' he he'
    rw [h.raised] at he he'
    exact hw.apart he he'
  case rows =>
    intro m hm
    rw [hmessages] at hm
    rcases List.mem_append.mp hm with hm | hm
    · -- a row from before, whose event was raised before
      obtain ⟨i, e, he, hcarries⟩ := hw.rows m hm
      rw [← h.raised] at he
      exact ⟨i, e, he, hcarries.sameKey (h.sameKey i)⟩
    · -- a captured row carries an event that waited until now
      obtain ⟨⟨i, e⟩, hp, hcarries, -⟩ := exists_left_of_forall₂ h.rows hm
      have he := hw.raised_of_pending (mem_raisedBy.mp hp).2
      rw [← h.raised] at he
      exact ⟨i, e, he, hcarries.sameKey (h.sameKey i)⟩
  case order =>
    intro i
    obtain ⟨stored, hraised, halign⟩ := hw.order i
    have hnew := hw.rows_captured hnodup h i
    -- the waiting events of a captured object are stored now, and those of the others still wait
    refine ⟨stored ++ (if i ∈ objects then w.pending i else []), ?_, ?_⟩
    · rw [h.raised, hraised]
      split
      · next hi => rw [h.cleared i hi, List.append_nil]
      · next hi => rw [h.waiting i hi, List.append_nil]
    · rw [rowsOf, hmessages, h.raised, List.filter_append]
      exact (List.rel_append halign hnew).imp fun e m hcarries =>
        hcarries.sameKey (h.sameKey i)

/-! ## §4 Runs -/

/-- One step keeps the invariant, whatever kind of step it is. -/
theorem Conserving.step {w w' : Service κ ι E} (hw : w.Conserving) (h : Step w w') :
    w'.Conserving := by
  cases h with
  | raise i e new => exact hw.raise new
  | edit i entity sameKey sameBuffer => exact hw.edit sameKey sameBuffer
  | commit track a distinct =>
    -- the commit captures the events of all tracked objects, or none
    obtain ⟨objects, ms, hobjects, hcaptures⟩ := commit_captures track a w
    rcases hobjects with rfl | rfl
    · exact hw.captures List.nodup_nil hcaptures
    · exact hw.captures distinct hcaptures
  | elsewhere sameObjects sameRows sameNumber =>
    exact hw.elsewhere sameObjects sameRows sameNumber

/-- Any number of steps keep the invariant. -/
theorem Conserving.moves {w w' : Service κ ι E} (hw : w.Conserving) (h : Moves w w') :
    w'.Conserving := by
  induction h with
  | refl => exact hw
  | tail _ step ih => exact ih.step step

/-- A cycle preserves the invariant, also one that ends early, if what publishing does are moves. -/
theorem Conserving.cycle {w : Service κ ι E} (hw : w.Conserving)
    {d : Dispatcher (Service κ ι E) κ} (hd : Serves d)
    (hpublish : ∀ e, (d.publish e).Within Moves) : (d.dispatchOnce.run w).2.Conserving := by
  -- every port of the cycle either delivers or publishes, and both keep the invariant
  have hports : d.PortsWithin fun v v' : Service κ ι E => v.Conserving → v'.Conserving :=
    hd.portsWithin (fun v v' h hv => hv.delivered h) fun e v hv => hv.moves (hpublish e v)
  exact Dispatcher.dispatchOnce_within (fun _ h => h) (fun _ _ _ h h' hv => h' (h hv)) hports w hw

/-- The invariant holds after every run, also between and after cycles that ended early. -/
theorem conserving_of_run {allowed : Dispatcher (Service κ ι E) κ → Prop}
    (hallowed : ∀ d, allowed d → ∀ e, (d.publish e).Within Moves) {h : List (List Uuid)}
    {w : Service κ ι E} (hrun : Run Moves allowed h w) : w.Conserving := by
  induction hrun with
  | start fresh => exact conserving_of_fresh fresh
  | move _ move ih => exact ih.moves move
  | cycle _ d serves allow ih => exact ih.cycle serves (hallowed d allow)

/-- Where the events of a service are: each is in one place, and objects and outbox agree on their
order. -/
structure Conserved (w : Service κ ι E) : Prop where
  /-- A raised event waits in the buffer of its object once and has no row, or it does not wait and
  has one row, which carries it. -/
  one_place : ∀ i, ∀ e ∈ (w.aggregates i).raised,
    ((w.pending i).filter (fun e' => e'.id = e.id) = [e] ∧ ∀ m ∈ w.store.messages, m.id ≠ e.id) ∨
      ((∀ e' ∈ w.pending i, e'.id ≠ e.id) ∧ ∃ m,
        w.store.messages.filter (fun m => m.id = e.id) = [m] ∧
          m.Carries (w.aggregates i).entity e)
  /-- No other object has it in its buffer. -/
  nowhere_else : ∀ i, ∀ e ∈ (w.aggregates i).raised, ∀ j, j ≠ i →
    ∀ e' ∈ w.pending j, e'.id ≠ e.id
  /-- Every row carries an event that some object raised. -/
  nothing_invented : ∀ m ∈ w.store.messages, ∃ i, ∃ e ∈ (w.aggregates i).raised,
    m.Carries (w.aggregates i).entity e
  /-- The rows of an object in the order of the outbox, and behind them its waiting events, are the
  events that it raised in the order in which it raised them. -/
  order : ∀ i, ∃ stored, (w.aggregates i).raised = stored ++ w.pending i ∧
    List.Forall₂ (fun e m => m.Carries (w.aggregates i).entity e) stored (w.rowsOf i)
  /-- The order of the outbox is that of the sequence numbers. -/
  numbers : (w.store.outbox.map Prod.fst).Pairwise (· < ·)

/-- Of a list whose keys are distinct, a filter by one key leaves one entry. -/
theorem filter_eq_singleton {α β : Type} [DecidableEq β] {f : α → β} {xs : List α}
    (hnodup : (xs.map f).Nodup) {x : α} (hx : x ∈ xs) :
    xs.filter (fun y => f y = f x) = [x] := by
  induction xs with
  | nil => simp at hx
  | cons y xs ih =>
    rw [List.map_cons, List.nodup_cons] at hnodup
    rcases List.mem_cons.mp hx with rfl | hx
    -- no other entry has the key of the first one
    · have hrest : xs.filter (fun y => f y = f x) = [] := by
        rw [List.filter_eq_nil_iff]
        intro y hy heq
        exact hnodup.1 (of_decide_eq_true heq ▸ List.mem_map_of_mem hy)
      rw [List.filter_cons_of_pos (by simp), hrest]
    · have hne : f y ≠ f x := fun heq => hnodup.1 (heq ▸ List.mem_map_of_mem hx)
      rw [List.filter_cons_of_neg (by simpa using hne), ih hnodup.2 hx]

/-- No event is lost, invented, duplicated or reordered between objects and outbox, however commits
end and wherever cycles stop; publishing may end early, too, in the midst of a row. -/
theorem events_conserved {allowed : Dispatcher (Service κ ι E) κ → Prop}
    (hallowed : ∀ d, allowed d → ∀ e, (d.publish e).Within Moves) {h : List (List Uuid)}
    {w : Service κ ι E} (hrun : Run Moves allowed h w) : w.Conserved := by
  have hw := conserving_of_run hallowed hrun
  constructor
  case one_place =>
    intro i e he
    obtain ⟨stored, hraised, halign⟩ := hw.order i
    -- the events of the object split into stored and waiting ones, with distinct identifiers
    have hdistinct := hw.distinct i
    rw [hraised, List.map_append, List.nodup_append] at hdistinct
    obtain ⟨-, hpending, happart⟩ := hdistinct
    have hwhere := he
    rw [hraised] at hwhere
    rcases List.mem_append.mp hwhere with hstored | hwaits
    · -- the event has a row
      right
      refine ⟨fun e' he' hid => ?_, ?_⟩
      · exact happart e.id (List.mem_map_of_mem hstored) e'.id (List.mem_map_of_mem he') hid.symm
      · obtain ⟨m, hm, hcarries⟩ := exists_right_of_forall₂ halign hstored
        refine ⟨m, ?_, hcarries⟩
        rw [← hcarries.id]
        refine filter_eq_singleton (f := Message.id) ?_ (List.mem_of_mem_filter hm)
        rw [← Store.ids_eq_map_messages]
        exact hw.sound.ids_nodup
    · -- the event still waits
      left
      exact ⟨filter_eq_singleton hpending hwaits, fun m hm => hw.not_stored hwaits hm⟩
  case nowhere_else =>
    intro i e he j hj e' he' hid
    exact hj (hw.apart (hw.raised_of_pending he') he hid)
  case nothing_invented => exact hw.rows
  case order => exact hw.order
  case numbers => exact hw.sound.numbers_increase

/-- Two items appear, and one of them is committed and delivered. -/
private def afternoon : Shop.Desk :=
  let raised := (Shop.desk.raise true (Shop.created 1)).raise false (Shop.created 2)
  ((Shop.courier {}).dispatchOnce.run (raised.commit [(true, .added)] Shop.purchase)).2

/-- The commit of the other meets a fault. -/
private def evening : Shop.Desk :=
  let fault := StoreError.database "connection reset"
  { afternoon with store := afternoon.store.failNextCommit fault }.commit
    [(false, .added)] Shop.purchase

/-- Two items appear: the event of one is stored and delivered, and that of the other, whose commit
fails, still waits. -/
theorem event_of_failed_commit_waits : ∃ h, Run Moves (· = Shop.courier {}) h evening ∧
    evening.Conserved ∧ evening.store.messages.map Message.id = [Uuid.ofNat 1] ∧
    (evening.pending false).map Event.id = [Uuid.ofNat 2] := by
  have hallowed : ∀ d, d = Shop.courier {} → ∀ e, (d.publish e).Within Moves := by
    rintro d rfl e w
    exact .single (.elsewhere rfl rfl rfl)
  have hstart : Run Moves (· = Shop.courier {}) [] Shop.desk := .start Shop.fresh_desk
  have hraised := (hstart.move (.single (.raise true (Shop.created 1) (by decide)))).move
    (.single (.raise false (Shop.created 2) (by decide)))
  have hcommitted := hraised.move (.single (.commit [(true, .added)] Shop.purchase (by decide)))
  have hdelivered : Run Moves (· = Shop.courier {}) _ afternoon :=
    hcommitted.cycle (Shop.courier {}) (Shop.serves_courier {}) rfl
  have harmed : Step afternoon { afternoon with
      store := afternoon.store.failNextCommit (.database "connection reset") } :=
    .elsewhere rfl rfl rfl
  have hrun : Run Moves (· = Shop.courier {}) _ evening :=
    (hdelivered.move (.single harmed)).move
      (.single (.commit [(false, .added)] Shop.purchase (by decide)))
  exact ⟨_, hrun, events_conserved hallowed hrun, by decide +kernel, by decide +kernel⟩

end EventOutbox.Service
