import EventOutbox.Proofs.Service.Basic
import EventOutbox.Proofs.Store.Delivery
import EventOutbox.Proofs.UnitOfWork.Outcome

/-!
# Steps of a service

What the steps between cycles do to objects and outbox rows.

## Main statements

- `Service.commit_captures`: a commit captures the events of some objects, all or none of each, and
  clears just what it captured.
- `Service.Moves.extends`: moves keep every row as it is and add untouched ones.
-/

namespace EventOutbox

variable {κ ι E : Type} [EventCatalog κ]

/-- A row is the stored form of an event that an entity raised. -/
structure Message.Carries (m : Message) (a : Entity κ) (e : Event κ) : Prop where
  id : m.id = e.id
  eventType : m.eventType = e.eventType
  payload : e.payload = .ok m.payload
  aggregateType : m.aggregateType = a.entityType
  aggregateId : m.aggregateId = a.entityId

/-- The row of an event is its stored form, and untouched. -/
theorem Tracked.carries_of_message {t : Tracked κ} {a : Attempt} {e : Event κ} {m : Message}
    (h : t.message a e = .ok m) : m.Carries t.entity e ∧ m.Untouched := by
  obtain ⟨payload, hpayload, rfl⟩ := exists_payload_of_message h
  exact ⟨⟨rfl, rfl, hpayload, rfl, rfl⟩, ⟨rfl, rfl, rfl⟩⟩

/-- The row carries the time of the attempt. -/
theorem Tracked.createdAt_of_message {t : Tracked κ} {a : Attempt} {e : Event κ} {m : Message}
    (h : t.message a e = .ok m) : m.createdAt = a.now := by
  obtain ⟨payload, -, rfl⟩ := exists_payload_of_message h
  rfl

/-- The delivery state of a row does not matter for what it carries. -/
theorem Message.Carries.sameEvent {m m' : Message} {a : Entity κ} {e : Event κ}
    (h : m.Carries a e) (hsame : m.SameEvent m') : m'.Carries a e where
  id := hsame.id.trans h.id
  eventType := hsame.eventType.trans h.eventType
  payload := by rw [hsame.payload, h.payload]
  aggregateType := hsame.aggregateType.trans h.aggregateType
  aggregateId := hsame.aggregateId.trans h.aggregateId

/-- A row that carries an event of an entity carries it for any entity of the same key. -/
theorem Message.Carries.sameKey {m : Message} {a b : Entity κ} {e : Event κ} (h : m.Carries a e)
    (hkey : a.SameKey b) : m.Carries b e where
  id := h.id
  eventType := h.eventType
  payload := h.payload
  aggregateType := h.aggregateType.trans hkey.entityType.symm
  aggregateId := h.aggregateId.trans hkey.entityId.symm

/-- The entity has its key and its events still. -/
def Entity.Kept (a b : Entity κ) : Prop :=
  a.SameKey b ∧ b.buffer = a.buffer

/-- The entity has its key still, and no events. -/
def Entity.Emptied (a b : Entity κ) : Prop :=
  a.SameKey b ∧ b.buffer.pending = []

namespace Service

/-! ## §1 Captured events -/

/-- The events of objects that are not stored yet, each with its object. -/
def raisedBy (objects : List ι) (w : Service κ ι E) : List (ι × Event κ) :=
  objects.flatMap fun i => (w.pending i).map fun e => (i, e)

/-- The service afterwards has the events of the given objects captured: their buffers are cleared
and their rows are inserted. -/
structure Captures (objects : List ι) (ms : List Message) (w w' : Service κ ι E) : Prop where
  sameKey : ∀ i, (w.aggregates i).entity.SameKey (w'.aggregates i).entity
  raised : ∀ i, (w'.aggregates i).raised = (w.aggregates i).raised
  cleared : ∀ i ∈ objects, w'.pending i = []
  waiting : ∀ i ∉ objects, w'.pending i = w.pending i
  rows : List.Forall₂ (fun p m => m.Carries (w.aggregates p.1).entity p.2 ∧ m.Untouched)
    (w.raisedBy objects) ms
  messages : w'.store.messages = w.store.messages ++ Store.novel w.store.ids ms
  sound : w.store.Sound → w'.store.Sound

/-- A commit only adds rows that no cycle has touched. -/
theorem Captures.extends {objects : List ι} {ms : List Message} {w w' : Service κ ι E}
    (h : Captures objects ms w w') : w.store.Extends w'.store := by
  refine ⟨h.sound, _, h.messages, fun m hm => ?_⟩
  obtain ⟨p, -, -, huntouched⟩ := exists_left_of_forall₂ h.rows (Store.novel_subset hm).1
  exact huntouched

/-! ## §2 Tracked objects -/

/-- The unit of work tracks the objects as they are. -/
theorem kept_unitOfWork (track : List (ι × TrackState)) (w : Service κ ι E) :
    List.Forall₂ (fun t t' => (w.aggregates t.1).entity.Kept t'.entity)
      track (w.unitOfWork track).tracked := by
  simp only [unitOfWork, List.forall₂_map_right_iff]
  exact List.forall₂_same.mpr fun t _ => ⟨⟨rfl, rfl⟩, rfl⟩

/-- Stamps leave everything but the audit fields as it is. -/
theorem kept_stamp (track : List (ι × TrackState)) (a : Attempt) (w : Service κ ι E) :
    List.Forall₂ (fun t t' => (w.aggregates t.1).entity.Kept t'.entity)
      track ((w.unitOfWork track).stamp a).tracked := by
  simp only [UnitOfWork.stamp, unitOfWork, List.map_map, List.forall₂_map_right_iff]
  exact List.forall₂_same.mpr fun t _ => ⟨⟨rfl, rfl⟩, rfl⟩

/-- Settling empties every buffer, whatever the versions are. -/
theorem emptied_settle (track : List (ι × TrackState)) (a : Attempt) (w : Service κ ι E)
    {versions : List (Option UInt64)} (hlength : versions.length = track.length) :
    List.Forall₂ (fun t t' => (w.aggregates t.1).entity.Emptied t'.entity)
      track (((w.unitOfWork track).stamp a).settle versions).tracked := by
  -- there are as many versions as tracked entities, so the zip drops none of them
  simp only [UnitOfWork.settle]
  have hkept := kept_stamp track a w
  generalize ((w.unitOfWork track).stamp a).tracked = tracked at hkept
  induction hkept generalizing versions with
  | nil => exact .nil
  | cons hkept _ ih =>
    cases versions with
    | nil => simp at hlength
    | cons v versions => exact .cons ⟨⟨hkept.1.1, hkept.1.2⟩, rfl⟩ (ih (by simpa using hlength))

/-- The messages of a stamped unit of work carry the events of the tracked objects. -/
theorem carries_raisedBy {track : List (ι × TrackState)} {a : Attempt} {w : Service κ ι E}
    {ms : List Message} (h : List.Forall₂ (fun te m => te.1.message a te.2 = .ok m)
      (UnitOfWork.raisedBy ((w.unitOfWork track).stamp a).tracked) ms) :
    List.Forall₂ (fun p m => m.Carries (w.aggregates p.1).entity p.2 ∧ m.Untouched)
      (w.raisedBy (track.map Prod.fst)) ms := by
  -- both lists of events are maps of the events of the tracked objects with what tracks them
  let events := track.flatMap fun t => (w.pending t.1).map fun e => (t, e)
  let stamped (t : ι × TrackState) : Tracked κ :=
    Tracked.stamp a.now (Actor.auditName a.actor) ⟨(w.aggregates t.1).entity, t.2⟩
  have hstamped : UnitOfWork.raisedBy ((w.unitOfWork track).stamp a).tracked =
      events.map fun p => (stamped p.1, p.2) := by
    simp only [UnitOfWork.raisedBy, UnitOfWork.stamp, unitOfWork, events, stamped,
      List.flatMap_map, List.map_flatMap, List.map_map]
    rfl
  have hobjects : w.raisedBy (track.map Prod.fst) = events.map fun p => (p.1.1, p.2) := by
    simp only [raisedBy, events, List.flatMap_map, List.map_flatMap, List.map_map]
    rfl
  rw [hstamped, List.forall₂_map_left_iff] at h
  rw [hobjects, List.forall₂_map_left_iff]
  refine h.imp fun p m hm => ?_
  obtain ⟨hcarries, huntouched⟩ := Tracked.carries_of_message hm
  exact ⟨⟨hcarries.id, hcarries.eventType, hcarries.payload, hcarries.aggregateType,
    hcarries.aggregateId⟩, huntouched⟩

/-! ## §3 Commits -/

variable [DecidableEq ι]

/-- An object that a unit of work tracked is as its tracked entity, and the others are as before. -/
theorem putBack_spec (R : Entity κ → Entity κ → Prop) {track : List (ι × TrackState)}
    {u : UnitOfWork κ} {w v : Service κ ι E}
    (h : List.Forall₂ (fun t t' => R (v.aggregates t.1).entity t'.entity) track u.tracked) (i : ι) :
    (i ∈ track.map Prod.fst →
        R (v.aggregates i).entity ((w.putBack track u).aggregates i).entity) ∧
      (i ∉ track.map Prod.fst → (w.putBack track u).aggregates i = w.aggregates i) ∧
      ((w.putBack track u).aggregates i).raised = (w.aggregates i).raised := by
  simp only [putBack]
  generalize u.tracked = tracked at h
  induction h with
  | nil => simp
  | @cons t t' track tracked hR _ ih =>
    -- the first entry about an object is what it is put back to
    by_cases hi : i = t.1
    · subst hi
      simp [hR]
    · have hbeq : (i == t.1) = false := beq_false_of_ne hi
      simpa [List.lookup_cons, hbeq, hi] using ih

/-- A commit that captures nothing: only audit fields and armed faults may change. -/
theorem captures_nil {track : List (ι × TrackState)} {u : UnitOfWork κ} {w : Service κ ι E}
    {s : Store} (hs : w.store.SameTables s)
    (h : List.Forall₂ (fun t t' => (w.aggregates t.1).entity.Kept t'.entity) track u.tracked) :
    Captures [] [] w ((storeCell.set s w).putBack track u) := by
  -- every object is as the stamped entity or as before, and so keeps its key and its events
  have hput := putBack_spec (w := storeCell.set s w) Entity.Kept h
  have hobject : ∀ i, (w.aggregates i).entity.Kept
      (((storeCell.set s w).putBack track u).aggregates i).entity := by
    intro i
    by_cases hi : i ∈ track.map Prod.fst
    · exact (hput i).1 hi
    · rw [(hput i).2.1 hi]
      exact ⟨⟨rfl, rfl⟩, rfl⟩
  constructor
  case sameKey => exact fun i => (hobject i).1
  case raised => exact fun i => (hput i).2.2
  case cleared => exact fun i hi => by simp at hi
  case waiting => exact fun i _ => congrArg EventBuffer.pending (hobject i).2
  case rows => exact .nil
  case messages =>
    show s.messages = w.store.messages ++ []
    rw [List.append_nil, Store.messages, Store.messages, hs.outbox]
  case sound => exact fun hsound => hsound.congr hs.outbox hs.nextSeq

/-- A commit that is accepted: the tracked objects have no events left, and rows are inserted. -/
theorem captures_written {track : List (ι × TrackState)} {u : UnitOfWork κ} {w : Service κ ι E}
    (entities : Table EntityKey EntityRow) {ms : List Message}
    (h : List.Forall₂ (fun t t' => (w.aggregates t.1).entity.Emptied t'.entity) track u.tracked)
    (rows : List.Forall₂ (fun p m => m.Carries (w.aggregates p.1).entity p.2 ∧ m.Untouched)
      (w.raisedBy (track.map Prod.fst)) ms) :
    Captures (track.map Prod.fst) ms w ((storeCell.set
      (Store.addRows { w.store with entities } (Store.novel w.store.ids ms)) w).putBack
        track u) := by
  -- tracked objects are emptied, and the others stay as they were
  have hput := putBack_spec (w := storeCell.set
    (Store.addRows { w.store with entities } (Store.novel w.store.ids ms)) w) Entity.Emptied h
  constructor
  case sameKey =>
    intro i
    by_cases hi : i ∈ track.map Prod.fst
    · exact ((hput i).1 hi).1
    · rw [(hput i).2.1 hi]
      exact ⟨rfl, rfl⟩
  case raised => exact fun i => (hput i).2.2
  case cleared => exact fun i hi => ((hput i).1 hi).2
  case waiting =>
    intro i hi
    rw [pending, (hput i).2.1 hi]
    rfl
  case rows => exact rows
  case messages => exact Store.messages_addRows _ _
  case sound =>
    intro hsound
    have hbefore : { w.store with entities }.Sound := hsound.congr rfl rfl
    have hinsert := hbefore.insertMessages ms
    rw [Store.insertMessages_eq] at hinsert
    exact hinsert

/-- A commit captures the events of all tracked objects or of none. -/
theorem commit_captures (track : List (ι × TrackState)) (a : Attempt) (w : Service κ ι E) :
    ∃ objects ms, (objects = [] ∨ objects = track.map Prod.fst) ∧
      Captures objects ms w (w.commit track a) := by
  have houtcome := UnitOfWork.commit_outcome storeCell a (w.unitOfWork track) w
  have hnothing : ∀ {u : UnitOfWork κ} {s : Store}, w.store.SameTables s →
      List.Forall₂ (fun t t' => (w.aggregates t.1).entity.Kept t'.entity) track u.tracked →
      ∃ objects ms, (objects = [] ∨ objects = track.map Prod.fst) ∧
        Captures objects ms w ((storeCell.set s w).putBack track u) :=
    fun hs h => ⟨[], [], .inl rfl, captures_nil hs h⟩
  rw [commit]
  revert houtcome
  generalize (UnitOfWork.commit (Store.committer storeCell) a).run (w.unitOfWork track, w) = r
  rcases r with ⟨answer, u, v⟩
  intro houtcome
  dsimp only at houtcome ⊢
  cases houtcome with
  -- all but the last two outcomes end before the store is asked, which leaves its tables alone
  | cancelled => exact hnothing (s := w.store) (.refl _) (kept_unitOfWork track w)
  | ungathered => exact hnothing (s := w.store) (.refl _) (kept_stamp track a w)
  | nothing => exact hnothing (s := w.store) (.refl _) (kept_stamp track a w)
  | full => exact hnothing (s := w.store) (.refl _) (kept_stamp track a w)
  | refused changes e s _ _ hstore =>
    exact hnothing (hstore.sameTables fun receipt h => by cases h) (kept_stamp track a w)
  | settled changes receipt versions s _ hgather hversions hstore =>
    have hlength : versions.length = track.length := by
      rw [UnitOfWork.length_versions? hversions, UnitOfWork.stamp, List.length_map, unitOfWork,
        List.length_map]
    -- an answer with a receipt is that of a store that accepted the changes
    cases hstore with
    | written entities =>
      refine ⟨track.map Prod.fst, changes.messages, .inr rfl, ?_⟩
      exact captures_written entities (emptied_settle track a w hlength)
        (carries_raisedBy (UnitOfWork.gather_messages hgather))

/-- A commit changes objects and the store only, and the rows that it adds carry its time. -/
theorem commit_parts (track : List (ι × TrackState)) (a : Attempt) (w : Service κ ι E) :
    ∃ s u, w.commit track a = (storeCell.set s w).putBack track u ∧
      ∃ ms, s.messages = w.store.messages ++ ms ∧ ∀ m ∈ ms, m.createdAt = a.now := by
  have houtcome := UnitOfWork.commit_outcome storeCell a (w.unitOfWork track) w
  -- a store with the same tables has no new rows
  have hsame : ∀ {s : Store}, w.store.SameTables s →
      ∃ ms, s.messages = w.store.messages ++ ms ∧ ∀ m ∈ ms, m.createdAt = a.now := by
    intro s hs
    refine ⟨[], ?_, by simp⟩
    rw [List.append_nil, Store.messages, Store.messages, hs.outbox]
  rw [commit]
  revert houtcome
  generalize (UnitOfWork.commit (Store.committer storeCell) a).run (w.unitOfWork track, w) = r
  rcases r with ⟨answer, u, v⟩
  intro houtcome
  cases houtcome with
  | cancelled => exact ⟨w.store, _, rfl, hsame (.refl _)⟩
  | ungathered => exact ⟨w.store, _, rfl, hsame (.refl _)⟩
  | nothing => exact ⟨w.store, _, rfl, hsame (.refl _)⟩
  | full => exact ⟨w.store, _, rfl, hsame (.refl _)⟩
  | refused changes e s _ _ hstore =>
    exact ⟨s, _, rfl, hsame (hstore.sameTables fun receipt h => by cases h)⟩
  | settled changes receipt versions s _ hgather _ hstore =>
    refine ⟨s, _, rfl, ?_⟩
    cases hstore with
    -- every new row is made from a gathered message, which was made at the time of the attempt
    | written entities =>
      refine ⟨_, Store.messages_addRows _ _, fun m hm => ?_⟩
      obtain ⟨te, -, hmessage⟩ := exists_left_of_forall₂ (UnitOfWork.gather_messages hgather)
        (Store.novel_subset hm).1
      exact Tracked.createdAt_of_message hmessage

/-! ## §4 Moves -/

/-- No step changes a row or takes one away. -/
theorem Step.extends {w w' : Service κ ι E} (h : Step w w') : w.store.Extends w'.store := by
  cases h with
  | raise i e => exact .refl _
  | edit i entity => exact .refl _
  | commit track a =>
    obtain ⟨objects, ms, -, hcaptures⟩ := commit_captures track a w
    exact hcaptures.extends
  | elsewhere _ sameRows sameNumber =>
    refine ⟨fun hs => hs.congr sameRows sameNumber, [], ?_, by simp⟩
    rw [List.append_nil, Store.messages, Store.messages, sameRows]

/-- Moves keep every row as it is and add untouched ones. -/
theorem Moves.extends {w w' : Service κ ι E} (h : Moves w w') : w.store.Extends w'.store := by
  induction h with
  | refl => exact .refl _
  | tail _ step ih => exact ih.trans step.extends

end Service

end EventOutbox
