import EventOutbox.Proofs.ActionLogic
import EventOutbox.Proofs.Aligned
import EventOutbox.Proofs.Store.Rows

/-!
# Outbox rows under delivery

Delivery changes rows in their delivery state only, and commits add untouched rows at the end.  Both
keep every row that is there, up to its delivery state.

## Main statements

- `Store.markProcessed_run`, `Store.recordFailure_run`: what a delivery step does to a stored row.
- `Store.markProcessed_within`, `Store.recordFailure_within`, `Store.fetch_within`: whatever row
  a delivery step is about, it is bounded by `Store.Delivers`.
-/

namespace EventOutbox

/-- The row as a mark leaves it: the first mark stays. -/
def Message.marked (at_ : Instant) (m : Message) : Message :=
  if m.isPending then m.markProcessed at_ else m

/-- A mark, counted or not, leaves the event of the row. -/
theorem Message.sameEvent_marked (at_ : Instant) (m : Message) : m.SameEvent (m.marked at_) := by
  unfold marked
  split
  · exact ⟨rfl, rfl, rfl, rfl, rfl, rfl, rfl⟩
  · exact .refl m

theorem Message.sameEvent_failed (error : String) (m : Message) : m.SameEvent (m.failed error) :=
  ⟨rfl, rfl, rfl, rfl, rfl, rfl, rfl⟩

namespace Store

/-! ## §1 Single steps -/

/-- Of a change only the new row counts, since it meets no other one. -/
theorem change_congr {s : Store} (hs : s.Sound) {m : Message} (hm : m ∈ s.messages)
    {f g : Message → Message} (h : f m = g m) : s.change m.id f = s.change m.id g := by
  simp only [change, changeMessage_eq_map _ _ hs.ids_nodup, mk.injEq, and_true, true_and]
  refine List.map_congr_left fun r hr => ?_
  split
  · next hid =>
    have hrm : r.2 = m := hs.eq_of_id_eq (List.mem_map_of_mem hr) hm hid
    rw [hrm, h]
  · rfl

/-- A mark of a stored row meets the armed fault or marks the row. -/
theorem markProcessed_run {s : Store} (hs : s.Sound) {m : Message} (hm : m ∈ s.messages)
    (at_ : Instant) :
    (markProcessed m.id at_).run s = match s.faults.markProcessed with
      | some f => (.ok (.error f), { s with faults := { s.faults with markProcessed := none } })
      | none => (.ok (.ok ()), s.change m.id (Message.marked at_)) := by
  rw [markProcessed, Action.run_bind_of_ok (Action.run_ask _ s), find?_of_mem hs hm]
  cases s.faults.markProcessed <;> rfl

/-- A failed attempt of a stored row whose counter is not full is counted. -/
theorem recordFailure_run {s : Store} (hs : s.Sound) {m : Message} (hm : m ∈ s.messages)
    (error : String) (room : m.retryCount.toNat + 1 < UInt32.size) :
    (recordFailure m.id error).run s = (.ok (.ok ()), s.change m.id (Message.failed · error)) := by
  have hfailed : m.recordFailure? error = some (m.failed error) := if_pos room
  -- the store changes the row by what it read of it, which is the row itself
  rw [recordFailure, Action.run_bind_of_ok (Action.run_ask _ s), find?_of_mem hs hm]
  simp only [hfailed]
  rw [Action.run_bind_of_ok (Action.run_update _ s), Action.run_pure,
    ← change_congr hs hm (f := fun _ => m.failed error) rfl]
  rfl

/-- The run ends early at a row whose counter is full. -/
theorem recordFailure_full {s : Store} (hs : s.Sound) {m : Message} (hm : m ∈ s.messages)
    (error : String) (full : ¬ m.retryCount.toNat + 1 < UInt32.size) :
    (recordFailure m.id error).run s = (.error .retriesFull, s) := by
  have hfull : m.recordFailure? error = none := if_neg full
  rw [recordFailure, Action.run_bind_of_ok (Action.run_ask _ s), find?_of_mem hs hm]
  simp only [hfull, Action.run_abort]

/-- A failed attempt is counted or changes nothing. -/
theorem recordFailure_world {s : Store} (hs : s.Sound) (id : Uuid) (error : String) :
    ((recordFailure id error).run s).2 = s ∨
      ((recordFailure id error).run s).2 = s.change id (Message.failed · error) := by
  cases hfind : s.find? id with
  | none =>
    left
    rw [recordFailure, Action.run_bind_of_ok (Action.run_ask _ s), hfind]
    rfl
  -- the row that is found decides, as the counter is its own
  | some m =>
    obtain ⟨hm, rfl⟩ := find?_some hfind
    by_cases room : m.retryCount.toNat + 1 < UInt32.size
    · right
      rw [recordFailure_run hs hm error room]
    · left
      rw [recordFailure_full hs hm error room]

/-- A mark meets the armed fault, or marks a row if it is stored. -/
theorem markProcessed_world (id : Uuid) (at_ : Instant) (s : Store) :
    (∃ faults, ((markProcessed id at_).run s).2 = { s with faults }) ∨
      ((markProcessed id at_).run s).2 = s.change id (Message.marked at_) := by
  rw [markProcessed, Action.run_bind_of_ok (Action.run_ask _ s)]
  -- an armed fault is used up even where there is no row to mark
  cases s.faults.markProcessed with
  | some f => exact .inl ⟨_, rfl⟩
  | none =>
    cases s.find? id with
    | none => exact .inl ⟨s.faults, rfl⟩
    | some m => exact .inr rfl

/-- A fetch meets the armed fault or answers with the oldest eligible rows. -/
theorem fetch_run (s : Store) (limit : UInt32) (maxAttempts : Option UInt32) :
    (fetch limit maxAttempts).run s = match s.faults.fetch with
      | some f => (.ok (.error f), { s with faults := { s.faults with fetch := none } })
      | none => (.ok (.ok ((s.eligible maxAttempts).take limit.toNat)), s) := by
  rw [fetch, Action.run_bind_of_ok (Action.run_ask _ s)]
  cases s.faults.fetch <;> rfl

/-! ## §2 Rows that stay -/

/-- Every row stays where it is, up to its delivery state. -/
structure Delivers (s s' : Store) : Prop where
  sound : s.Sound → s'.Sound
  rows : s.Sound → List.Forall₂ Message.SameEvent s.messages s'.messages

/-- Every row stays as it is, and untouched rows are added. -/
structure Extends (s s' : Store) : Prop where
  sound : s.Sound → s'.Sound
  rows : ∃ ms, s'.messages = s.messages ++ ms ∧ ∀ m ∈ ms, m.Untouched

/-- Every row stays, up to its delivery state. -/
structure Keeps (s s' : Store) : Prop where
  sound : s.Sound → s'.Sound
  rows : s.Sound → ∀ m ∈ s.messages, ∃ m' ∈ s'.messages, m.SameEvent m'

/-- The row is stored as it is, in a sound store. -/
structure Stored (m : Message) (s : Store) : Prop where
  sound : s.Sound
  mem : m ∈ s.messages

/-- A row is stored as long as the outbox is the same. -/
theorem Stored.congr {m : Message} {s s' : Store} (h : s.Stored m) (hout : s'.outbox = s.outbox)
    (hseq : s'.nextSeq = s.nextSeq) : s'.Stored m where
  sound := h.sound.congr hout hseq
  mem := by
    rw [messages, hout]
    exact h.mem

/-- The row stays when another one is changed. -/
theorem Stored.change {m : Message} {s : Store} (h : s.Stored m) {id : Uuid} (hother : m.id ≠ id)
    {f : Message → Message} (hf : ∀ x : Message, x.SameEvent (f x)) : (s.change id f).Stored m where
  sound := h.sound.change id fun x => (hf x).id
  mem := by
    rw [messages_change h.sound]
    exact List.mem_map.mpr ⟨m, h.mem, if_neg hother⟩

/-- The mark of another row leaves a row as it is. -/
theorem Stored.markProcessed {m : Message} {s : Store} (h : s.Stored m) {id : Uuid}
    (hother : m.id ≠ id) (at_ : Instant) : ((markProcessed id at_).run s).2.Stored m := by
  rcases markProcessed_world id at_ s with ⟨faults, hworld⟩ | hworld <;> rw [hworld]
  · exact h.congr rfl rfl
  · exact h.change hother (Message.sameEvent_marked at_)

/-- The failure of another row leaves a row as it is. -/
theorem Stored.recordFailure {m : Message} {s : Store} (h : s.Stored m) {id : Uuid}
    (hother : m.id ≠ id) (error : String) : ((recordFailure id error).run s).2.Stored m := by
  rcases recordFailure_world h.sound id error with hworld | hworld <;> rw [hworld]
  · exact h
  · exact h.change hother (Message.sameEvent_failed error)

theorem Stored.fetch {m : Message} {s : Store} (h : s.Stored m) (limit : UInt32)
    (maxAttempts : Option UInt32) : ((fetch limit maxAttempts).run s).2.Stored m := by
  rw [fetch_run]
  cases s.faults.fetch with
  | some f => exact h.congr rfl rfl
  | none => exact h

theorem Keeps.refl (s : Store) : s.Keeps s := ⟨id, fun _ m hm => ⟨m, hm, .refl m⟩⟩

theorem Keeps.trans {a b c : Store} (h : a.Keeps b) (h' : b.Keeps c) : a.Keeps c where
  sound := fun hs => h'.sound (h.sound hs)
  rows := fun hs m hm => by
    obtain ⟨m₁, hm₁, hsame₁⟩ := h.rows hs m hm
    obtain ⟨m₂, hm₂, hsame₂⟩ := h'.rows (h.sound hs) m₁ hm₁
    exact ⟨m₂, hm₂, hsame₁.trans hsame₂⟩

theorem Extends.refl (s : Store) : s.Extends s := ⟨id, [], by simp, by simp⟩

theorem Extends.trans {a b c : Store} (h : a.Extends b) (h' : b.Extends c) : a.Extends c := by
  obtain ⟨ms, hms, huntouched⟩ := h.rows
  obtain ⟨ms', hms', huntouched'⟩ := h'.rows
  refine ⟨fun hs => h'.sound (h.sound hs), ms ++ ms', ?_, fun m hm => ?_⟩
  · rw [hms', hms, List.append_assoc]
  · rcases List.mem_append.mp hm with hm | hm
    · exact huntouched m hm
    · exact huntouched' m hm

/-- Rows that are added leave those that were there. -/
theorem Extends.keeps {s s' : Store} (h : s.Extends s') : s.Keeps s' := by
  obtain ⟨ms, hms, -⟩ := h.rows
  refine ⟨h.sound, fun _ m hm => ⟨m, ?_, .refl m⟩⟩
  rw [hms]
  exact List.mem_append_left _ hm

theorem Delivers.refl (s : Store) : s.Delivers s :=
  ⟨id, fun _ => List.forall₂_same.mpr fun m _ => .refl m⟩

/-- What a store needs to be sound for may be shown with soundness at hand. -/
theorem Delivers.of_sound {s s' : Store} (h : s.Sound → s.Delivers s') : s.Delivers s' :=
  ⟨fun hs => (h hs).sound hs, fun hs => (h hs).rows hs⟩

/-- Rows that are delivered stay. -/
theorem Delivers.keeps {s s' : Store} (h : s.Delivers s') : s.Keeps s' where
  sound := h.sound
  rows := fun hs _ hm => exists_right_of_forall₂ (h.rows hs) hm

/-- Changing the delivery state of a row. -/
theorem delivers_change (s : Store) (id : Uuid) {f : Message → Message}
    (hf : ∀ m : Message, m.SameEvent (f m)) : s.Delivers (s.change id f) where
  sound := fun hs => hs.change id fun m => (hf m).id
  rows := fun hs => by
    rw [messages_change hs, List.forall₂_map_right_iff, List.forall₂_same]
    intro m _
    split
    · exact hf m
    · exact .refl m

/-- With the same outbox every row is where it was. -/
theorem delivers_of_same_rows {s s' : Store} (hout : s'.outbox = s.outbox)
    (hseq : s'.nextSeq = s.nextSeq) : s.Delivers s' where
  sound := fun hs => hs.congr hout hseq
  rows := fun hs => by
    have hmessages : s'.messages = s.messages := by rw [messages, messages, hout]
    rw [hmessages]
    exact (Delivers.refl s).rows hs

theorem keeps_of_same_rows {s s' : Store} (hout : s'.outbox = s.outbox)
    (hseq : s'.nextSeq = s.nextSeq) : s.Keeps s' :=
  (delivers_of_same_rows hout hseq).keeps

/-- A mark delivers at most one row. -/
theorem markProcessed_within (id : Uuid) (at_ : Instant) :
    (markProcessed id at_).Within Delivers := by
  intro s
  rcases markProcessed_world id at_ s with ⟨faults, hworld⟩ | hworld <;> rw [hworld]
  · exact delivers_of_same_rows rfl rfl
  · exact delivers_change s id (Message.sameEvent_marked at_)

theorem fetch_within (limit : UInt32) (maxAttempts : Option UInt32) :
    (fetch limit maxAttempts).Within Delivers := by
  intro s
  rw [fetch_run]
  cases s.faults.fetch with
  | some f => exact delivers_of_same_rows rfl rfl
  | none => exact Delivers.refl s

/-- A failure that is recorded moves the delivery state of one row at most. -/
theorem recordFailure_within (id : Uuid) (error : String) :
    (recordFailure id error).Within Delivers := by
  intro s
  refine Delivers.of_sound fun hs => ?_
  rcases recordFailure_world hs id error with hworld | hworld <;> rw [hworld]
  · exact Delivers.refl s
  · exact delivers_change s id (Message.sameEvent_failed error)

end Store

end EventOutbox
