import EventOutbox.Proofs.Service.Accounting
import EventOutbox.Proofs.Service.Conservation
import EventOutbox.Proofs.Store.Order

/-!
# The order of first attempts

When the clock of a program does not run back, the rows that were attempted are always the first
rows of the outbox.  Rows that an attempt left behind may come back, and those that are processed or
exhausted drop out, but both were attempted before; a batch takes what is left of them, and then the
untouched rows in the order of their insertion.  So events are published for the first time in the
order in which their objects raised them.

## Main statement

- `Service.first_attempts_in_order`
-/

namespace EventOutbox

/-! ## §1 First occurrences -/

section FirstOccurrences

variable {α : Type} [BEq α] [LawfulBEq α]

/-- Without repetitions, all occurrences are first ones. -/
theorem eraseDups_of_nodup {xs : List α} (h : xs.Nodup) : xs.eraseDups = xs := by
  induction xs with
  | nil => rfl
  | cons x xs ih =>
    rw [List.nodup_cons] at h
    have hrest : xs.filter (fun y => !y == x) = xs := by
      rw [List.filter_eq_self]
      intro y hy
      have hne : y ≠ x := fun heq => h.1 (heq ▸ hy)
      simp [hne]
    rw [List.eraseDups_cons, hrest, ih h.2]

/-- What occurred before adds nothing, and what is new is added as it is. -/
theorem eraseDups_append_append {xs known new : List α} (hknown : ∀ x ∈ known, x ∈ xs)
    (hnew : ∀ x ∈ new, x ∉ xs) (hnodup : new.Nodup) :
    (xs ++ (known ++ new)).eraseDups = xs.eraseDups ++ new := by
  have hremove : (known ++ new).removeAll xs = new := by
    have hnone : known.filter (fun x => !List.elem x xs) = [] := by
      rw [List.filter_eq_nil_iff]
      intro x hx
      simp [hknown x hx]
    have hall : new.filter (fun x => !List.elem x xs) = new := by
      rw [List.filter_eq_self]
      intro x hx
      simp [hnew x hx]
    rw [List.removeAll, List.filter_append, hnone, hall, List.nil_append]
  rw [List.eraseDups_append, hremove, eraseDups_of_nodup hnodup]

/-- The first occurrence of an element stands behind those of the elements before it. -/
theorem eraseDups_append_cons {before : List α} {x : α} (hx : x ∉ before) (after : List α) :
    ∃ later, (before ++ x :: after).eraseDups = before.eraseDups ++ x :: later := by
  have hremove : (x :: after).removeAll before = x :: after.removeAll before := by
    rw [List.removeAll, List.filter_cons_of_pos (by simp [hx])]
    rfl
  rw [List.eraseDups_append, hremove, List.eraseDups_cons]
  exact ⟨_, rfl⟩

/-- The first occurrences of what is selected are the selected first occurrences. -/
theorem eraseDups_filter (p : α → Bool) (xs : List α) :
    (xs.filter p).eraseDups = xs.eraseDups.filter p := by
  match xs with
  | [] => rfl
  | x :: xs =>
    have hrest := eraseDups_filter p (xs.filter fun y => !y == x)
    rw [List.eraseDups_cons]
    cases hp : p x with
    | true =>
      -- what is erased after the first element does not depend on the order of the two filters
      rw [List.filter_cons_of_pos hp, List.filter_cons_of_pos hp, List.eraseDups_cons, ← hrest,
        List.filter_filter, List.filter_filter]
      simp only [Bool.and_comm]
    | false =>
      -- what is erased is not selected anyway
      have hsame : (xs.filter fun y => !y == x).filter p = xs.filter p := by
        rw [List.filter_filter]
        refine List.filter_congr fun y _ => ?_
        by_cases hy : y = x
        · simp [hy, hp]
        · simp [hy]
      rw [List.filter_cons_of_neg (by simp [hp]), List.filter_cons_of_neg (by simp [hp]), ← hrest,
        hsame]
termination_by xs.length
decreasing_by exact Nat.lt_succ_of_le (List.length_filter_le _ _)

end FirstOccurrences

namespace Service

variable {κ ι E : Type} [EventCatalog κ]

/-! ## §2 Time -/

/-- Time does not run back along the outbox, and no row is later than the clock shows. -/
structure Timely (clock : E → Instant) (w : Service κ ι E) : Prop where
  inTime : w.store.InTime
  past : ∀ m ∈ w.store.messages, m.createdAt ≤ clock w.rest

variable {clock : E → Instant} {registry : Registry κ} {w w' v v' : Service κ ι E}

/-- Rows may change in their delivery state, and rows of the present may be added. -/
theorem Timely.of_rows (hw : Timely clock w) {old : List Message} (new : List Message)
    (hold : List.Forall₂ Message.SameEvent w.store.messages old)
    (hmessages : w'.store.messages = old ++ new)
    (hnew : ∀ m ∈ new, m.createdAt = clock w'.rest) (forward : clock w.rest ≤ clock w'.rest) :
    Timely clock w' := by
  have htimes : old.map Message.createdAt = w.store.messages.map Message.createdAt :=
    map_eq_of_forall₂ hold fun _ _ hsame => hsame.createdAt
  -- the clock has not run back since the rows were stored
  have hpast : ∀ m ∈ old, m.createdAt ≤ clock w'.rest := by
    intro m' hm'
    obtain ⟨m, hm, hsame⟩ := exists_left_of_forall₂ hold hm'
    rw [hsame.createdAt]
    exact Instant.le_trans (hw.past m hm) forward
  constructor
  case inTime =>
    have hordered : old.Pairwise fun m m' => m.createdAt ≤ m'.createdAt := by
      have hmap : (old.map Message.createdAt).Pairwise (· ≤ ·) := by
        rw [htimes]
        exact List.pairwise_map.mpr hw.inTime
      exact List.pairwise_map.mp hmap
    rw [Store.InTime, hmessages, List.pairwise_append]
    refine ⟨hordered, List.pairwise_of_forall_mem_list fun a ha b hb => ?_, fun a ha b hb => ?_⟩
    · -- rows of the present are of one time
      rw [hnew a ha, hnew b hb]
      exact Instant.le_refl _
    · -- and none of the others is of a later one
      rw [hnew b hb]
      exact hpast a ha
  case past =>
    intro m hm
    rw [hmessages] at hm
    rcases List.mem_append.mp hm with hm | hm
    · exact hpast m hm
    · rw [hnew m hm]
      exact Instant.le_refl _

/-- Where no row changes, time goes on. -/
theorem Timely.same (hw : Timely clock w) (hmessages : w'.store.messages = w.store.messages)
    (forward : clock w.rest ≤ clock w'.rest) : Timely clock w' := by
  apply hw.of_rows [] (List.forall₂_same.mpr fun m _ => .refl m)
  · rw [hmessages, List.append_nil]
  · simp
  · exact forward

variable [DecidableEq ι]

/-- A step by the clock of the program: a commit reads the time, and the clock does not run back. -/
inductive ClockedStep (clock : E → Instant) : Service κ ι E → Service κ ι E → Prop where
  | commit {w : Service κ ι E} (track : List (ι × TrackState)) (a : Attempt)
      (distinct : (track.map Prod.fst).Nodup) (reads : a.now = clock w.rest) :
      ClockedStep clock w (w.commit track a)
  /-- Any step that leaves the outbox as it is. -/
  | other {w w' : Service κ ι E} (step : Step w w') (sameRows : w'.store.outbox = w.store.outbox)
      (forward : clock w.rest ≤ clock w'.rest) : ClockedStep clock w w'

/-- Steps by the clock that publish nothing. -/
structure Calm (clock : E → Instant) (w w' : Service κ ι E) : Prop where
  steps : Relation.ReflTransGen (ClockedStep clock) w w'
  log : w'.log = w.log

/-- A step by the clock is a step. -/
theorem ClockedStep.step (h : ClockedStep clock w w') : Step w w' := by
  cases h with
  | commit track a distinct => exact .commit track a distinct
  | other step => exact step

/-- A step by the clock keeps the order of times, since a commit takes the time that the clock
shows. -/
theorem ClockedStep.timely (h : ClockedStep clock w w') (hw : Timely clock w) :
    Timely clock w' := by
  cases h with
  | commit track a distinct reads =>
    obtain ⟨s, u, hcommit, ms, hmessages, htimes⟩ := commit_parts track a w
    rw [hcommit]
    refine hw.of_rows ms (List.forall₂_same.mpr fun m _ => .refl m) hmessages (fun m hm => ?_) ?_
    · exact (htimes m hm).trans reads
    · exact Instant.le_refl _
  | other _ sameRows forward =>
    refine hw.same ?_ forward
    rw [Store.messages, Store.messages, sameRows]

/-- Nothing at all is calm. -/
theorem Calm.refl (clock : E → Instant) (w : Service κ ι E) : Calm clock w w := ⟨.refl, rfl⟩

/-- Calm steps one after the other are calm. -/
theorem Calm.trans (u v w : Service κ ι E) (h : Calm clock u v) (h' : Calm clock v w) :
    Calm clock u w :=
  ⟨h.steps.trans h'.steps, h'.log.trans h.log⟩

/-- A commit by the clock is calm. -/
theorem calm_commit {track : List (ι × TrackState)} (distinct : (track.map Prod.fst).Nodup)
    {a : Attempt} (reads : a.now = clock w.rest) : Calm clock w (w.commit track a) := by
  obtain ⟨s, u, hcommit, -⟩ := commit_parts track a w
  refine ⟨.single (.commit track a distinct reads), ?_⟩
  rw [hcommit]
  rfl

/-- Calm steps are moves. -/
theorem Calm.moves (h : Calm clock w w') : Moves w w' :=
  Relation.ReflTransGen.mono (fun _ _ step => ClockedStep.step step) _ _ h.steps

/-- Calm steps keep the order of times. -/
theorem Calm.timely (h : Calm clock w w') (hw : Timely clock w) : Timely clock w' := by
  obtain ⟨hsteps, -⟩ := h
  induction hsteps with
  | refl => exact hw
  | tail _ step ih => exact step.timely ih

/-! ## §3 Attempts of a cycle -/

/-- What the registry reads a row into, if it can read it. -/
def readEvent (registry : Registry κ) (m : Message) : Option (Event κ) :=
  (registry.decode m.eventType m.payload).toOption

/-- An attempt of the row has succeeded or failed. -/
def Attempted (m : Message) : Prop :=
  m.isPending = false ∨ 0 < m.retryCount.toNat

/-- What a cycle that has visited the given rows made of a row. -/
structure Tried (visited : List Uuid) (m m' : Message) : Prop where
  sameEvent : m.SameEvent m'
  unvisited : m.id ∉ visited → m' = m
  visited : m.id ∈ visited → Attempted m'
  attempted : Attempted m → Attempted m'

/-- In the midst of a cycle that began at `w`: the visited rows were attempted, events were
published, and rows may have been added. -/
structure Trying (clock : E → Instant) (w : Service κ ι E) (visited : List Message)
    (es : List (Event κ)) (v : Service κ ι E) : Prop where
  sound : v.store.Sound
  timely : Timely clock v
  rows : ∃ old new, v.store.messages = old ++ new ∧
    List.Forall₂ (Tried (visited.map Message.id)) w.store.messages old ∧ ∀ m ∈ new, m.Untouched
  log : v.log = w.log ++ es

section Trying

variable {visited : List Message} {es : List (Event κ)}

omit [DecidableEq ι] in
/-- A cycle begins without visits. -/
theorem Timely.begin (hw : Timely clock w) (hs : w.store.Sound) : Trying clock w [] [] w := by
  refine ⟨hs, hw, ⟨w.store.messages, [], ?_, ?_, by simp⟩, ?_⟩
  · rw [List.append_nil]
  · exact List.forall₂_same.mpr fun m _ => ⟨.refl m, fun _ => rfl, fun h => by simp at h, id⟩
  · rw [List.append_nil]

omit [DecidableEq ι] in
/-- Nothing was visited by what leaves outbox, counter and log alone. -/
theorem Trying.same (h : Trying clock w visited es v) (houtbox : v'.store.outbox = v.store.outbox)
    (hnextSeq : v'.store.nextSeq = v.store.nextSeq) (hlog : v'.log = v.log)
    (forward : clock v.rest ≤ clock v'.rest) : Trying clock w visited es v' := by
  have hmessages : v'.store.messages = v.store.messages := by
    rw [Store.messages, Store.messages, houtbox]
  refine ⟨h.sound.congr houtbox hnextSeq, h.timely.same hmessages forward, ?_, hlog.trans h.log⟩
  rw [hmessages]
  exact h.rows

omit [DecidableEq ι] in
/-- An armed fault is spent without a visit. -/
theorem Trying.fault (h : Trying clock w visited es v) (faults : Faults) :
    Trying clock w visited es { v with store := { v.store with faults } } :=
  h.same rfl rfl rfl (Instant.le_refl _)

omit [DecidableEq ι] in
/-- Publishing extends the log. -/
theorem Trying.publish (h : Trying clock w visited es v) (e : Event κ) :
    Trying clock w visited (es ++ [e]) (logged [e] v) := by
  refine ⟨h.sound, h.timely.same rfl (Instant.le_refl _), h.rows, ?_⟩
  show v.log ++ [e] = w.log ++ (es ++ [e])
  rw [h.log, List.append_assoc]

/-- Calm steps of handlers add untouched rows and visit none. -/
theorem Trying.calm (h : Trying clock w visited es v) (hcalm : Calm clock v v') :
    Trying clock w visited es v' := by
  have hextends := hcalm.moves.extends
  obtain ⟨old, new, hmessages, hold, hnew⟩ := h.rows
  obtain ⟨ms, hms, huntouched⟩ := hextends.rows
  refine ⟨hextends.sound h.sound, hcalm.timely h.timely, ⟨old, new ++ ms, ?_, hold, ?_⟩,
    hcalm.log.trans h.log⟩
  · rw [hms, hmessages, List.append_assoc]
  · intro m hm
    exact (List.mem_append.mp hm).elim (hnew m) (huntouched m)

omit [DecidableEq ι] in
/-- A row that was not visited yet is stored as it was. -/
theorem Trying.waiting (h : Trying clock w visited es v) {m : Message} (hm : m ∈ w.store.messages)
    (hnew : m.id ∉ visited.map Message.id) : m ∈ v.store.messages := by
  obtain ⟨old, new, hmessages, hold, -⟩ := h.rows
  obtain ⟨m', hm', htried⟩ := exists_right_of_forall₂ hold hm
  obtain rfl := htried.unvisited hnew
  rw [hmessages]
  exact List.mem_append_left _ hm'

omit [DecidableEq ι] in
/-- The cycle visits one more row, and the attempt leaves its trace. -/
theorem Trying.visit (h : Trying clock w visited es v) {m : Message} (hm : m ∈ w.store.messages)
    (hnew : m.id ∉ visited.map Message.id) {f : Message → Message}
    (sameEvent : ∀ m' : Message, m'.SameEvent (f m')) (attempted : Attempted (f m))
    (hs : w.store.Sound) (hstore : v'.store = v.store.change m.id f) (hrest : v'.rest = v.rest)
    (hlog : v'.log = v.log) : Trying clock w (visited ++ [m]) es v' := by
  obtain ⟨old, new, hmessages, hold, huntouched⟩ := h.rows
  obtain ⟨m', hm', htried⟩ := exists_right_of_forall₂ hold hm
  obtain rfl := htried.unvisited hnew
  -- the added rows have other identifiers than the old ones
  have hapart : ∀ x ∈ new, x.id ≠ m'.id := by
    have hnodup := h.sound.ids_nodup
    rw [Store.ids_eq_map_messages, hmessages] at hnodup
    intro x hx hid
    exact Message.id_notMem_of_nodup hnodup hx (hid ▸ List.mem_map_of_mem hm')
  have hchange : v'.store.messages = old.map (fun x => if x.id = m'.id then f x else x) ++ new := by
    rw [hstore, Store.messages_change h.sound, hmessages, List.map_append]
    congr 1
    conv_rhs => rw [← List.map_id new]
    exact List.map_congr_left fun x hx => if_neg (hapart x hx)
  have hdelivers := Store.delivers_change v.store m'.id sameEvent
  constructor
  case sound =>
    rw [hstore]
    exact hdelivers.sound h.sound
  case timely =>
    refine h.timely.of_rows [] (hdelivers.rows h.sound) ?_ (by simp) ?_
    · rw [hstore, List.append_nil]
    · rw [hrest]
      exact Instant.le_refl _
  case rows =>
    -- the rows that were added are not attempted, so only the old ones have to be followed
    refine ⟨_, new, hchange, forall₂_map_of_mem hold fun x hx x' ht => ?_, huntouched⟩
    simp only [List.map_append, List.map_cons, List.map_nil]
    by_cases hxm : x.id = m'.id
    · -- this is the row at hand
      obtain rfl := hs.eq_of_id_eq hx hm hxm
      obtain rfl := ht.unvisited hnew
      rw [if_pos rfl]
      exact ⟨sameEvent x', fun hnot => absurd (List.mem_append_right _ List.mem_cons_self) hnot,
        fun _ => attempted, fun _ => attempted⟩
    · have hother : x.id ∈ visited.map Message.id ++ [m'.id] ↔
          x.id ∈ visited.map Message.id := by simp [hxm]
      rw [if_neg (by rw [ht.sameEvent.id]; exact hxm)]
      exact ⟨ht.sameEvent, by rw [hother]; exact ht.unvisited, by rw [hother]; exact ht.visited,
        ht.attempted⟩
  case log => exact hlog.trans h.log

omit [DecidableEq ι] in
/-- Every row of the start is stored still. -/
theorem Trying.exists_sameEvent (h : Trying clock w visited es v) {m : Message}
    (hm : m ∈ w.store.messages) : ∃ m' ∈ v.store.messages, m.SameEvent m' := by
  obtain ⟨old, new, hmessages, hold, -⟩ := h.rows
  obtain ⟨m', hm', htried⟩ := exists_right_of_forall₂ hold hm
  refine ⟨m', ?_, htried.sameEvent⟩
  rw [hmessages]
  exact List.mem_append_left _ hm'

omit [DecidableEq ι] in
/-- First rows that were attempted before or are visited, and untouched rows that are not, become
attempted rows and untouched ones. -/
theorem Trying.rows_split (h : Trying clock w visited es v) {done rest : List Message}
    (hmessages : w.store.messages = done ++ rest)
    (hdone : ∀ m ∈ done, Attempted m ∨ m.id ∈ visited.map Message.id)
    (hrest : ∀ m ∈ rest, m.Untouched ∧ m.id ∉ visited.map Message.id) :
    ∃ tried waiting, v.store.messages = tried ++ waiting ∧
      tried.map Message.id = done.map Message.id ∧ (∀ m ∈ tried, Attempted m) ∧
        ∀ m ∈ waiting, m.Untouched := by
  obtain ⟨old, new, hmessages', hold, hnew⟩ := h.rows
  -- the two parts of the first rows are followed one by one
  rw [hmessages] at hold
  obtain ⟨old₁, old₂, rfl, hold₁, hold₂⟩ := exists_append_of_forall₂ hold
  refine ⟨old₁, old₂ ++ new, ?_, ?_, fun m' hm' => ?_, fun m' hm' => ?_⟩
  · rw [hmessages', List.append_assoc]
  · exact map_eq_of_forall₂ hold₁ fun _ _ ht => ht.sameEvent.id
  · obtain ⟨m, hm, ht⟩ := exists_left_of_forall₂ hold₁ hm'
    exact (hdone m hm).elim ht.attempted ht.visited
  · rcases List.mem_append.mp hm' with hm' | hm'
    · obtain ⟨m, hm, ht⟩ := exists_left_of_forall₂ hold₂ hm'
      obtain ⟨huntouched, hout⟩ := hrest m hm
      rw [ht.unvisited hout]
      exact huntouched
    · exact hnew m' hm'

omit [DecidableEq ι] in
/-- A failed attempt leaves its trace, unless the run ends early at a full counter. -/
theorem Trying.fails {d : Dispatcher (Service κ ι E) κ} (h : Trying clock w visited es v)
    (hd : Serves d) (hs : w.store.Sound) {m : Message} (hm : m ∈ w.store.messages)
    (hnew : m.id ∉ visited.map Message.id) (f : Failure) (outcome : RowOutcome) :
    (d.recordFailure m f outcome).Ensures v
      (fun _ v' => Trying clock w (visited ++ [m]) es v') fun _ => True := by
  have hstored := h.waiting hm hnew
  rw [Dispatcher.recordFailure_ensures, hd.outbox]
  by_cases room : m.retryCount.toNat + 1 < UInt32.size
  · have hattempted : Attempted (m.failed f.text) := by
      right
      rw [Message.retryCount_failed room]
      exact Nat.succ_pos _
    refine Action.ensures_of_run_ok (outbox_recordFailure_run h.sound hstored f.text room) ?_
    exact h.visit hm hnew (Message.sameEvent_failed f.text) hattempted hs rfl rfl rfl
  · -- a full counter ends the run early, and nothing is promised of it
    have hfull := Store.recordFailure_full h.sound hstored f.text room
    unfold Action.Ensures
    simp only [Service.outbox, Store.outboxAccess, Action.run_focus, storeCell, hfull]

omit [DecidableEq ι] in
/-- A mark, or a failed attempt when the mark meets a fault, leaves its trace. -/
theorem Trying.marks {d : Dispatcher (Service κ ι E) κ} (h : Trying clock w visited es v)
    (hd : Serves d) (hs : w.store.Sound) {m : Message} (hm : m ∈ w.store.messages)
    (hpending : m.isPending = true) (hnew : m.id ∉ visited.map Message.id) (at_ : Instant) :
    (d.outbox.markProcessed m.id at_).Ensures v (fun
      | .error f, v' => (d.recordFailure m f .failed).Ensures v'
        (fun _ v'' => Trying clock w (visited ++ [m]) es v'') fun _ => True
      | .ok (), v' => Trying clock w (visited ++ [m]) es v') fun _ => True := by
  have hrun := outbox_markProcessed_eq h.sound (h.waiting hm hnew) at_
  have hmarked : m.marked at_ = m.markProcessed at_ := if_pos hpending
  rw [hd.outbox]
  cases hfault : v.store.faults.markProcessed with
  | some f =>
    -- the fault is spent, and the attempt counts as failed
    rw [hfault] at hrun
    refine Action.ensures_of_run_ok hrun ?_
    exact (h.fault _).fails hd hs hm hnew f .failed
  | none =>
    rw [hfault] at hrun
    refine Action.ensures_of_run_ok hrun ?_
    refine h.visit hm hnew (Message.sameEvent_marked at_) ?_ hs rfl rfl rfl
    rw [hmarked]
    exact .inl rfl

end Trying

/-! ## §4 Cycles -/

variable [DecidableEq κ]

/-- A dispatcher with a valid configuration that reads by one registry and publishes on a bus whose
handlers do calm steps; its phases do not turn the clock back. -/
structure PublishingInTime (clock : E → Instant) (registry : Registry κ)
    (d : Dispatcher (Service κ ι E) κ) : Prop where
  registry : d.registry = registry
  valid : d.config.problem? = none
  forward : ∀ p w, clock w.rest ≤ clock ((d.setPhase p).run w).2.rest
  bus : ∃ bus : Bus (Service κ ι E) κ,
    (∀ s ∈ bus.subscriptions, ∀ body, (s.handler.handle body).Within (Calm clock)) ∧
      d.publish = bus.publish logCell

variable {d : Dispatcher (Service κ ι E) κ}

/-- Publishing logs the event; the rest is calm. -/
theorem PublishingInTime.publish (hp : PublishingInTime clock registry d) (e : Event κ)
    (w : Service κ ι E) :
    (d.publish e).Ensures w (fun _ w' => Calm clock (logged [e] w) w') fun _ => True := by
  obtain ⟨bus, hcalm, hpublish⟩ := hp.bus
  rw [hpublish]
  have hbus := bus.publish_ensures logCell (e := e) (J := fun _ => True) (X := fun _ => True)
    (R := Calm clock) (P := fun _ _ => True) (Calm.refl clock) Calm.trans
    (fun _ _ _ _ _ => trivial) (fun s hs v _ => ?_) (w := w) trivial
  · exact hbus.mono (fun _ _ h => h.2.1) fun _ h => h
  · refine Bus.deliver_ensures ⟨trivial, .refl clock v, fun _ => trivial⟩ fun body _ => ?_
    have hhandle := hcalm s (List.mem_filter.mp hs).1 body v
    refine (Action.ensures_world_iff.mpr hhandle).mono (fun _ _ h => ?_) fun _ _ => trivial
    exact ⟨trivial, h, fun _ => trivial⟩

/-- Delivering a row visits it, and publishes the event that it is read into. -/
theorem Trying.dispatchRow {visited : List Message} {es : List (Event κ)}
    (h : Trying clock w visited es v) (hd : Serves d) (hp : PublishingInTime clock registry d)
    (hs : w.store.Sound) {m : Message} (hm : m ∈ w.store.messages) (hpending : m.isPending = true)
    (hnew : m.id ∉ visited.map Message.id) : (d.dispatchRow m).Ensures v (fun _ v' =>
      Trying clock w (visited ++ [m]) (es ++ (readEvent registry m).toList) v') fun _ => True := by
  obtain rfl := hp.registry
  apply Dispatcher.dispatchRow_ensures
  · intro cause hdecode
    have hread : (readEvent d.registry m).toList = [] := by
      simp [readEvent, hdecode, Except.toOption]
    rw [hread, List.append_nil]
    exact h.fails hd hs hm hnew cause.failure .skipped
  · intro e hdecode
    have hread : (readEvent d.registry m).toList = [e] := by
      simp [readEvent, hdecode, Except.toOption]
    rw [hread]
    -- the row is visited however publishing and marking answer
    refine (hp.publish e v).mono (fun answer v₁ hcalm => ?_) fun _ h => h
    have h₁ := (h.publish e).calm hcalm
    rcases answer with f | _
    · exact h₁.fails hd hs hm hnew f .failed
    · refine (h₁.marks hd hs hm hpending hnew (d.clock v₁)).mono (fun mark v₂ hmark => ?_)
        fun _ h => h
      rcases mark with f | _
      · exact hmark
      · exact hmark

/-- A cycle that does not end early has attempted the rows that it reached. -/
theorem Timely.cycle (hw : Timely clock w) (hs : w.store.Sound) (hd : Serves d)
    (hp : PublishingInTime clock registry d) {answer : Except Failure DispatchReport}
    (hrun : (d.dispatchOnce.run w).1 = .ok answer) :
    Trying clock w (d.reached w) ((d.reached w).filterMap (readEvent registry))
      (d.dispatchOnce.run w).2 := by
  have hcycle := hd.dispatchOnce_ensures_phases (w := w) (X := fun _ => True)
    (I := fun visited v => Trying clock w visited (visited.filterMap (readEvent registry)) v)
    (hw.begin hs) ?_ ?_ ?_
  · -- the run has an answer, so it is the answer that the rule is about
    unfold Action.Ensures at hcycle
    unfold Dispatcher.reached
    rcases hrun' : d.dispatchOnce.run w with ⟨result, w'⟩
    rw [hrun'] at hrun hcycle
    dsimp only at hrun
    subst hrun
    exact hcycle
  · exact fun visited v faults h => h.fault faults
  · intro p visited v h
    have hforward := hp.forward p v
    obtain ⟨display, hphase⟩ := hd.setPhase p
    rw [hphase] at hforward ⊢
    exact h.same rfl rfl rfl hforward
  · intro visited m rest v hbatch h
    obtain ⟨hm, hpending, hnew⟩ := hd.next_in_batch hbatch
    rw [List.filterMap_append]
    have hone : [m].filterMap (readEvent registry) = (readEvent registry m).toList := by
      cases hread : readEvent registry m <;> simp [hread]
    rw [hone]
    exact h.dispatchRow hd hp hs hm hpending (hnew hs)

/-! ## §5 The attempted rows stand first -/

/-- A valid limit of attempts does not exclude rows that were never attempted. -/
theorem eligible_of_untouched {c : DispatcherConfig} (valid : c.problem? = none) {m : Message}
    (hm : m.Untouched) : (m.isPending && !m.attemptsExhausted c.maxAttempts) = true := by
  have hpending : m.isPending = true := by simp [Message.isPending, hm.pending]
  -- the limit is not zero, and no attempt was made
  have hleft : m.attemptsExhausted c.maxAttempts = false := by
    have hne := (DispatcherConfig.problem?_eq_none_iff.mp valid).2.2
    cases hmax : c.maxAttempts with
    | none => rfl
    | some most =>
      rw [hmax] at hne
      have hpos : ¬ most ≤ 0 := fun hle => hne (by rw [UInt32.le_antisymm hle (UInt32.zero_le)])
      simp [Message.attemptsExhausted, hm.no_retry, hpos]
  rw [hpending, hleft]
  rfl

/-- An untouched row was not attempted. -/
theorem not_attempted_of_untouched {m : Message} (hm : m.Untouched) : ¬ Attempted m := by
  rintro (hdone | hfailed)
  · simp [Message.isPending, hm.pending] at hdone
  · simp [hm.no_retry] at hfailed

/-- The attempted rows, in the order of their first attempts, are the first rows of the outbox; the
other rows are untouched; and the log holds what the registry reads the attempted rows into. -/
structure InOrder (clock : E → Instant) (registry : Registry κ) (attempts : List Message)
    (w : Service κ ι E) : Prop where
  sound : w.store.Sound
  timely : Timely clock w
  rows : ∃ tried waiting, w.store.messages = tried ++ waiting ∧
    (attempts.map Message.id).eraseDups = tried.map Message.id ∧ (∀ m ∈ tried, Attempted m) ∧
      ∀ m ∈ waiting, m.Untouched
  log : w.log = attempts.filterMap (readEvent registry)
  known : ∀ a ∈ attempts, ∃ m ∈ w.store.messages, a.SameEvent m

omit [DecidableEq ι] [DecidableEq κ] in
/-- Nothing was attempted yet. -/
theorem inOrder_of_fresh (clock : E → Instant) (registry : Registry κ) (hw : w.Fresh) :
    InOrder clock registry [] w := by
  have hmessages : w.store.messages = [] := by
    rw [hw.store]
    rfl
  constructor
  case sound =>
    rw [hw.store]
    exact Store.sound_empty {}
  case timely =>
    constructor
    · rw [Store.InTime, hmessages]
      exact .nil
    · simp [hmessages]
  case rows => exact ⟨[], [], hmessages, rfl, by simp, by simp⟩
  case log => exact hw.log
  case known => simp

omit [DecidableEq κ] in
/-- Calm steps add untouched rows behind the others. -/
theorem InOrder.calm {attempts : List Message} (hw : InOrder clock registry attempts w)
    (h : Calm clock w w') : InOrder clock registry attempts w' := by
  obtain ⟨tried, waiting, hmessages, hfirst, htried, hwaiting⟩ := hw.rows
  obtain ⟨ms, hms, huntouched⟩ := h.moves.extends.rows
  constructor
  case sound => exact h.moves.extends.sound hw.sound
  case timely => exact h.timely hw.timely
  case rows =>
    refine ⟨tried, waiting ++ ms, ?_, hfirst, htried, fun m hm => ?_⟩
    · rw [hms, hmessages, List.append_assoc]
    · exact (List.mem_append.mp hm).elim (hwaiting m) (huntouched m)
  case log => exact h.log.trans hw.log
  case known =>
    intro a ha
    obtain ⟨m, hm, hsame⟩ := hw.known a ha
    rw [hms]
    exact ⟨m, List.mem_append_left _ hm, hsame⟩

/-- What a cycle reaches are rows that were attempted before, and then the first untouched rows. -/
theorem reached_eq {attempts : List Message} (hw : InOrder clock registry attempts w)
    (hd : Serves d) (hp : PublishingInTime clock registry d) {tried waiting : List Message}
    (hmessages : w.store.messages = tried ++ waiting) (hwaiting : ∀ m ∈ waiting, m.Untouched) :
    ∃ again n, d.reached w = again ++ waiting.take n ∧ ∀ m ∈ again, m ∈ tried := by
  -- the cycle reaches a first part of the batch, which is a first part of the eligible rows
  have hbatch : ∃ k, d.batch w = (w.store.eligible d.config.maxAttempts).take k := by
    -- a fetch that failed is an empty batch
    obtain ⟨answer, v, hrun, -, hrows⟩ := hd.fetchBatch_run w
    rw [Dispatcher.batch, hrun]
    rcases answer with f | rows
    · exact ⟨0, rfl⟩
    · exact ⟨_, hrows rows rfl⟩
  have hreached : ∃ k, d.reached w = (d.batch w).take k := by
    unfold Dispatcher.reached
    rcases (d.dispatchOnce.run w).1 with _ | _ | report
    · exact ⟨0, rfl⟩
    · exact ⟨0, rfl⟩
    · exact ⟨report.fetched - report.cancelled, rfl⟩
  obtain ⟨k, hbatch⟩ := hbatch
  obtain ⟨k', hreached⟩ := hreached
  -- the store sorts by time, which is the order of the outbox already
  have heligible : w.store.eligible d.config.maxAttempts =
      (tried.filter fun m => m.isPending && !m.attemptsExhausted d.config.maxAttempts) ++
        waiting := by
    rw [Store.eligible_of_times hw.sound hw.timely.inTime, hmessages, List.filter_append]
    congr 1
    rw [List.filter_eq_self]
    exact fun m hm => eligible_of_untouched hp.valid (hwaiting m hm)
  rw [hreached, hbatch, heligible, List.take_take, List.take_append]
  exact ⟨_, _, rfl, fun m hm => List.mem_of_mem_filter (List.mem_of_mem_take hm)⟩

/-- A cycle that does not end early keeps the order. -/
theorem InOrder.cycle {attempts : List Message} (hw : InOrder clock registry attempts w)
    (hd : Serves d) (hp : PublishingInTime clock registry d)
    {answer : Except Failure DispatchReport} (hrun : (d.dispatchOnce.run w).1 = .ok answer) :
    InOrder clock registry (attempts ++ d.reached w) (d.dispatchOnce.run w).2 := by
  obtain ⟨tried, waiting, hmessages, hfirst, htried, hwaiting⟩ := hw.rows
  obtain ⟨again, n, hreached, hagain⟩ := reached_eq hw hd hp hmessages hwaiting
  have hcycle := hw.timely.cycle hw.sound hd hp hrun
  have hids : (d.reached w).map Message.id =
      again.map Message.id ++ (waiting.take n).map Message.id := by
    rw [hreached, List.map_append]
  have hattempted : ∀ id, id ∈ attempts.map Message.id ↔ id ∈ tried.map Message.id := by
    intro id
    rw [← hfirst, List.mem_eraseDups]
  have hagain' : ∀ id ∈ again.map Message.id, id ∈ tried.map Message.id := by
    intro id hid
    obtain ⟨m, hm, rfl⟩ := List.mem_map.mp hid
    exact List.mem_map_of_mem (hagain m hm)
  -- the rows fall into those attempted before, those attempted now, and the others
  have hsplit : w.store.messages = (tried ++ waiting.take n) ++ waiting.drop n := by
    rw [List.append_assoc, List.take_append_drop, hmessages]
  have hnodup := hw.sound.ids_nodup
  rw [Store.ids_eq_map_messages, hsplit, List.map_append, List.map_append, List.nodup_append,
    List.nodup_append] at hnodup
  obtain ⟨⟨-, hnow, hbefore⟩, -, hothers⟩ := hnodup
  -- rows visited before or now leave their traces
  have hdone : ∀ m ∈ tried ++ waiting.take n,
      Attempted m ∨ m.id ∈ (d.reached w).map Message.id := by
    intro m hm
    rcases List.mem_append.mp hm with hm | hm
    · exact .inl (htried m hm)
    · right
      rw [hids]
      exact List.mem_append_right _ (List.mem_map_of_mem hm)
  have hrest : ∀ m ∈ waiting.drop n, m.Untouched ∧ m.id ∉ (d.reached w).map Message.id := by
    intro m hm
    refine ⟨hwaiting m (List.mem_of_mem_drop hm), fun hid => ?_⟩
    rw [hids] at hid
    have hid' := List.mem_append.mpr ((List.mem_append.mp hid).imp_left (hagain' m.id))
    exact hothers m.id hid' m.id (List.mem_map_of_mem hm) rfl
  constructor
  case sound => exact hcycle.sound
  case timely => exact hcycle.timely
  case rows =>
    obtain ⟨tried', waiting', hmessages', hsame, htried', hwaiting'⟩ :=
      hcycle.rows_split hsplit hdone hrest
    refine ⟨tried', waiting', hmessages', ?_, htried', hwaiting'⟩
    -- the rows attempted again add nothing to the first attempts, and the others are new to them
    rw [hsame, List.map_append, List.map_append, hids, ← hfirst]
    apply eraseDups_append_append _ _ hnow
    · exact fun id hid => (hattempted id).mpr (hagain' id hid)
    · exact fun id hid hknown => hbefore id ((hattempted id).mp hknown) id hid rfl
  case log => rw [hcycle.log, hw.log, List.filterMap_append]
  case known =>
    intro a ha
    rcases List.mem_append.mp ha with ha | ha
    · obtain ⟨m, hm, hsame⟩ := hw.known a ha
      obtain ⟨m', hm', hsame'⟩ := hcycle.exists_sameEvent hm
      exact ⟨m', hm', hsame.trans hsame'⟩
    · apply hcycle.exists_sameEvent
      rw [hreached] at ha
      rw [hmessages]
      exact List.mem_append.mpr ((List.mem_append.mp ha).imp (hagain a) List.mem_of_mem_take)

/-! ## §6 Runs -/

/-- The runs of a service by its clock in which no cycle ends early, with all attempts of rows in
the order in which they were made. -/
inductive TimedRun (clock : E → Instant) (registry : Registry κ) :
    List Message → Service κ ι E → Prop where
  | start {w : Service κ ι E} (fresh : w.Fresh) : TimedRun clock registry [] w
  | move {attempts : List Message} {v w : Service κ ι E} (run : TimedRun clock registry attempts v)
      (calm : Calm clock v w) : TimedRun clock registry attempts w
  | cycle {attempts : List Message} {v : Service κ ι E} (run : TimedRun clock registry attempts v)
      (d : Dispatcher (Service κ ι E) κ) (serves : Serves d)
      (publishing : PublishingInTime clock registry d)
      (answers : ∃ answer, (d.dispatchOnce.run v).1 = .ok answer) :
      TimedRun clock registry (attempts ++ d.reached v) (d.dispatchOnce.run v).2

variable {attempts : List Message}

/-- Rows are attempted in order in every run by the clock. -/
theorem TimedRun.inOrder (h : TimedRun clock registry attempts w) :
    InOrder clock registry attempts w := by
  induction h with
  | start fresh => exact inOrder_of_fresh clock registry fresh
  | move _ calm ih => exact ih.calm calm
  | cycle _ d serves publishing answers ih =>
    obtain ⟨answer, hrun⟩ := answers
    exact ih.cycle serves publishing hrun

/-- What is published in time is published by moves. -/
theorem PublishingInTime.publish_within (hp : PublishingInTime clock registry d) (e : Event κ) :
    (d.publish e).Within Moves := by
  obtain ⟨bus, hcalm, hpublish⟩ := hp.bus
  rw [hpublish]
  refine Bus.publish_within (fun _ => .refl) (fun _ _ _ => Relation.ReflTransGen.trans) ?_ ?_
  · exact fun w => .single (.elsewhere rfl rfl rfl)
  · exact fun s hs body w => (hcalm s hs body w).moves

/-- The runs by the clock conserve events as all runs do. -/
theorem TimedRun.conserving (h : TimedRun clock registry attempts w) : w.Conserving := by
  induction h with
  | start fresh => exact conserving_of_fresh fresh
  | move _ calm ih => exact ih.moves calm.moves
  | cycle _ d serves publishing _ ih => exact ih.cycle serves publishing.publish_within

omit [DecidableEq ι] [DecidableEq κ] in
/-- What a row is read into has the identifier of the row. -/
theorem id_of_readEvent (hreads : Faithful registry w) {m : Message} (hm : m ∈ w.store.messages)
    {e : Event κ} (h : readEvent registry m = some e) : e.id = m.id := by
  refine hreads m hm e ?_
  rw [readEvent] at h
  cases hdecode : registry.decode m.eventType m.payload with
  | error cause =>
    rw [hdecode] at h
    cases h
  | ok e' =>
    rw [hdecode] at h
    cases h
    rfl

omit [DecidableEq ι] [DecidableEq κ] in
/-- The logged identifiers are those of the attempted rows that can be read. -/
theorem InOrder.logIds_eq (h : InOrder clock registry attempts w) (hreads : Faithful registry w) :
    ∃ readable : Uuid → Bool, w.logIds = (attempts.map Message.id).filter readable := by
  let readable (id : Uuid) : Bool :=
    w.store.messages.any fun m => decide (m.id = id) && (readEvent registry m).isSome
  -- attempts of one row agree on whether it can be read
  have hone : ∀ a ∈ attempts, readable a.id = (readEvent registry a).isSome ∧
      ∀ e, readEvent registry a = some e → e.id = a.id := by
    intro a ha
    obtain ⟨m, hm, hsame⟩ := h.known a ha
    have hread : readEvent registry a = readEvent registry m := by
      rw [readEvent, readEvent, hsame.eventType, hsame.payload]
    rw [hread, ← hsame.id]
    refine ⟨?_, fun e he => id_of_readEvent hreads hm he⟩
    rw [Bool.eq_iff_iff, List.any_eq_true]
    constructor
    · rintro ⟨m', hm', hboth⟩
      rw [Bool.and_eq_true, decide_eq_true_eq] at hboth
      exact h.sound.eq_of_id_eq hm' hm hboth.1 ▸ hboth.2
    · intro hsome
      exact ⟨m, hm, by simpa using hsome⟩
  refine ⟨readable, ?_⟩
  -- the log and the attempts are walked together
  rw [logIds, h.log]
  clear h
  induction attempts with
  | nil => rfl
  | cons a attempts ih =>
    obtain ⟨hreadable, hid⟩ := hone a List.mem_cons_self
    have hrest := ih fun a ha => hone a (List.mem_cons_of_mem _ ha)
    cases hread : readEvent registry a with
    | none =>
      rw [hread] at hreadable
      rw [List.filterMap_cons_none hread, List.map_cons,
        List.filter_cons_of_neg (by simp [hreadable]), hrest]
    | some e =>
      rw [hread] at hreadable
      rw [List.filterMap_cons_some hread, List.map_cons, List.map_cons,
        List.filter_cons_of_pos (by simp [hreadable]), hid e hread, hrest]

/-- What a run tells about the order of attempts. -/
structure FirstAttempts (registry : Registry κ) (attempts : List Message) (w : Service κ ι E) :
    Prop where
  /-- A row that is attempted for the first time stands in the outbox right behind the rows that
  were attempted before. -/
  first : ∀ before m after, attempts = before ++ m :: after → m.id ∉ before.map Message.id →
    ∃ later, w.store.ids = (before.map Message.id).eraseDups ++ m.id :: later
  /-- The attempted rows are those that are processed or have failed. -/
  traces : ∀ m ∈ w.store.messages,
    m.id ∈ attempts.map Message.id ↔ m.isPending = false ∨ 0 < m.retryCount.toNat
  /-- Every attempt of a row that can be read publishes its event. -/
  published : w.log = attempts.filterMap fun m => (registry.decode m.eventType m.payload).toOption
  /-- Events are published for the first time in the order of their rows. -/
  logged : (w.log.map Event.id).eraseDups.Sublist w.store.ids
  /-- The events of an object are published for the first time in the order in which it raised
  them. -/
  raised : ∀ i, ((w.log.map Event.id).eraseDups.filter
    (· ∈ (w.aggregates i).raised.map Event.id)).Sublist ((w.aggregates i).raised.map Event.id)

/-- When the clock does not run back and no cycle ends early, rows are attempted for the first time
in the order of the outbox, and events are published for the first time in the order in which they
were raised. -/
theorem first_attempts_in_order (hrun : TimedRun clock registry attempts w)
    (hreads : Faithful registry w) : FirstAttempts registry attempts w := by
  have hw := hrun.inOrder
  obtain ⟨tried, waiting, hmessages, hfirst, htried, hwaiting⟩ := hw.rows
  -- the outbox begins with the rows in the order of their first attempts
  have hids : w.store.ids = (attempts.map Message.id).eraseDups ++ waiting.map Message.id := by
    rw [Store.ids_eq_map_messages, hmessages, List.map_append, hfirst]
  -- the log leaves out the attempted rows that cannot be read, and keeps the order of the others
  have hlogged : (w.log.map Event.id).eraseDups.Sublist w.store.ids := by
    obtain ⟨p, hlog⟩ := hw.logIds_eq hreads
    rw [logIds] at hlog
    rw [hlog, eraseDups_filter, hids]
    exact List.filter_sublist.trans (List.sublist_append_left _ _)
  constructor
  case first =>
    rintro before m after rfl hnew
    -- what was attempted before it comes first, and later attempts cannot stand between
    rw [List.map_append, List.map_cons] at hids
    obtain ⟨later, hlater⟩ := eraseDups_append_cons hnew (after.map Message.id)
    rw [hlater, List.append_assoc, List.cons_append] at hids
    exact ⟨_, hids⟩
  case traces =>
    intro m hm
    rw [← List.mem_eraseDups, hfirst]
    rw [hmessages] at hm
    constructor
    · intro hid
      obtain ⟨m', hm', hid⟩ := List.mem_map.mp hid
      have heq : m' = m := hw.sound.eq_of_id_eq (hmessages ▸ List.mem_append_left _ hm')
        (hmessages ▸ hm) hid
      exact heq ▸ htried m' hm'
    · intro hattempted
      rcases List.mem_append.mp hm with hm | hm
      · exact List.mem_map_of_mem hm
      · exact absurd hattempted (not_attempted_of_untouched (hwaiting m hm))
  case published => exact hw.log
  case logged => exact hlogged
  case raised =>
    intro i
    -- of the rows of the object, the outbox keeps the order in which it raised their events
    obtain ⟨stored, hraised, hrows⟩ := hrun.conserving.order i
    have hown : (w.store.ids.filter (· ∈ (w.aggregates i).raised.map Event.id)) =
        stored.map Event.id := by
      have hsame : (w.rowsOf i).map Message.id = stored.map Event.id :=
        map_eq_of_forall₂ hrows fun _ _ hcarries => hcarries.id
      rw [← hsame, rowsOf, Store.ids_eq_map_messages, List.filter_map]
      rfl
    have hsub := hlogged.filter (fun id => decide (id ∈ (w.aggregates i).raised.map Event.id))
    rw [hown] at hsub
    refine hsub.trans ?_
    rw [hraised, List.map_append]
    exact List.sublist_append_left _ _

/-- The shop opens, and later it closes. -/
private def shopClock (n : Nat) : Instant :=
  bif Nat.beq n 0 then Shop.opening else .ofFields Shop.opening.date 17 0 0 0

/-- The courier gives up on a row after one failed attempt. -/
private def hasty : Dispatcher Shop.Desk Shop.Kind :=
  { Shop.courier ⟨[Shop.printer]⟩ with config := { maxAttempts := some 1 } }

private theorem publishingInTime_hasty :
    PublishingInTime shopClock (.ofList [.itemCreated]) hasty where
  registry := rfl
  valid := rfl
  forward := fun _ _ => Instant.le_refl _
  bus := by
    refine ⟨⟨[Shop.printer]⟩, fun s hs => ?_, rfl⟩
    obtain rfl := List.mem_singleton.mp hs
    intro body w
    refine ⟨.single (.other (.elsewhere rfl rfl rfl) rfl ?_), rfl⟩
    -- the printer counts what it is given, which moves the clock on
    show shopClock w.rest ≤ shopClock (w.rest + 1)
    cases w.rest with
    | zero => decide
    | succ n => exact Instant.le_refl _

private theorem answers_of_isOk {w : Shop.Desk} (h : (hasty.dispatchOnce.run w).1.isOk = true) :
    ∃ answer, (hasty.dispatchOnce.run w).1 = .ok answer := by
  cases hrun : (hasty.dispatchOnce.run w).1 with
  | error e =>
    rw [hrun] at h
    cases h
  | ok answer => exact ⟨answer, rfl⟩

private def opened : Shop.Desk :=
  (Shop.desk.raise true (Shop.created 1)).commit [(true, .added)] Shop.purchase

private def exhausted : Shop.Desk :=
  (hasty.dispatchOnce.run opened).2

private def restocked : Shop.Desk :=
  (exhausted.raise true (Shop.created 2)).commit [(true, .modified)]
    { Shop.purchase with now := shopClock 1 }

private def sold : Shop.Desk :=
  (hasty.dispatchOnce.run restocked).2

/-- An item raises two events, which are stored at different times.  The first attempt of the first
one fails, and no other is made; that of the second one succeeds. -/
theorem second_row_tried_after_failed_first : ∃ attempts, attempts.map Message.id =
      [Uuid.ofNat 1, Uuid.ofNat 2] ∧
    sold.store.messages.map (fun m => (m.isPending, m.retryCount)) = [(true, 1), (false, 0)] ∧
    FirstAttempts (.ofList [.itemCreated]) attempts sold := by
  have hserves : Serves hasty := ⟨rfl, fun _ => ⟨id, rfl⟩⟩
  have hstart : TimedRun shopClock (.ofList [.itemCreated]) [] Shop.desk := .start Shop.fresh_desk
  have hopened : TimedRun shopClock (.ofList [.itemCreated]) [] opened :=
    (hstart.move ⟨.single (.other (.raise true (Shop.created 1) (by decide)) rfl
      (Instant.le_refl _)), rfl⟩).move (calm_commit (by decide) rfl)
  have hexhausted : TimedRun shopClock (.ofList [.itemCreated]) _ exhausted :=
    hopened.cycle hasty hserves publishingInTime_hasty (answers_of_isOk (by decide +kernel))
  have hrestocked : TimedRun shopClock (.ofList [.itemCreated]) _ restocked :=
    (hexhausted.move ⟨.single (.other (.raise true (Shop.created 2) (by decide +kernel)) rfl
      (Instant.le_refl _)), rfl⟩).move (calm_commit (by decide) (by decide +kernel))
  have hsold : TimedRun shopClock (.ofList [.itemCreated]) _ sold :=
    hrestocked.cycle hasty hserves publishingInTime_hasty (answers_of_isOk (by decide +kernel))
  have hreads : Faithful (.ofList [.itemCreated]) sold := by decide +kernel
  exact ⟨_, by decide +kernel, by decide +kernel, first_attempts_in_order hsold hreads⟩

end Service

end EventOutbox
