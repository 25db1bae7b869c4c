import EventOutbox.Proofs.Delivery.Publishing
import EventOutbox.Proofs.Service.Cycles
import EventOutbox.Proofs.Service.Sample
import EventOutbox.Proofs.Service.Steps

/-!
# Delivery accounts

Every time a cycle reaches a row, either a failed attempt is counted or the row is marked; and when
the registry can read the row, its event is written to the log once.  So the attempts of a row, its
entries in the log, its failure count and its mark balance, over runs of any shape that are short
enough for the failure count not to overflow.

## Main statement

- `Service.deliveries_balance`
-/

namespace EventOutbox.Service

variable {κ ι E : Type} [EventCatalog κ]

/-! ## §1 The account of a row -/

/-- Whether the registry can read a row. -/
def Readable (registry : Registry κ) (m : Message) : Prop :=
  ∃ e, registry.decode m.eventType m.payload = .ok e

/-- A row that the registry refuses is read into no event. -/
theorem not_readable_of_error {registry : Registry κ} {m : Message} {cause : RegistryError}
    (h : registry.decode m.eventType m.payload = .error cause) : ¬ Readable registry m := by
  rintro ⟨e, he⟩
  rw [h] at he
  cases he

/-- How often a row was tried is how often it failed, and once more when it is processed; a row that
can be read was published as often, and one that cannot was never published or processed. -/
structure Balanced (registry : Registry κ) (tries : Nat) (log : List Uuid)
    (marks : List (Uuid × Nat)) (m : Message) : Prop where
  tried : tries = m.retryCount.toNat + if m.isPending then 0 else 1
  readable : Readable registry m → log.count m.id = tries
  unreadable : ¬ Readable registry m → log.count m.id = 0 ∧ m.isPending = true
  failed : m.lastError.isSome = true ↔ 0 < m.retryCount.toNat
  marked : m.isPending = false ↔ ∃ n, (m.id, n) ∈ marks

variable {registry : Registry κ}

/-- An account stays balanced while nothing new is known about its row. -/
theorem Balanced.congr {tries tries' : Nat} {log log' : List Uuid}
    {marks marks' : List (Uuid × Nat)} {m : Message} (h : Balanced registry tries log marks m)
    (htries : tries' = tries)
    (hlog : log'.count m.id = log.count m.id)
    (hmarks : ∀ n, (m.id, n) ∈ marks' ↔ (m.id, n) ∈ marks) :
    Balanced registry tries' log' marks' m where
  tried := htries.trans h.tried
  readable := fun hread => by rw [hlog, htries, h.readable hread]
  unreadable := fun hread => by
    rw [hlog]
    exact h.unreadable hread
  failed := h.failed
  marked := by
    simp only [hmarks]
    exact h.marked

/-- A row that was never reached has an empty account. -/
theorem balanced_of_untouched {log : List Uuid} {marks : List (Uuid × Nat)} {m : Message}
    (h : m.Untouched) (hlog : m.id ∉ log) (hmarks : ∀ n, (m.id, n) ∉ marks) :
    Balanced registry 0 log marks m := by
  have hpending : m.isPending = true := by
    rw [Message.isPending, h.pending]
    rfl
  constructor
  case tried => simp [h.no_retry, hpending]
  case readable => exact fun _ => List.count_eq_zero_of_not_mem hlog
  case unreadable => exact fun _ => ⟨List.count_eq_zero_of_not_mem hlog, hpending⟩
  case failed => simp [h.no_error, h.no_retry]
  case marked => simp [hpending, hmarks]

/-- The account after a failed attempt. -/
theorem Balanced.afterFailure {tries : Nat} {log log' : List Uuid} {marks : List (Uuid × Nat)}
    {m : Message} (h : Balanced registry tries log marks m) (hpending : m.isPending = true)
    (room : m.retryCount.toNat + 1 < UInt32.size) (error : String)
    (hread : Readable registry m → log'.count m.id = log.count m.id + 1)
    (hunread : ¬ Readable registry m → log'.count m.id = log.count m.id) :
    Balanced registry (tries + 1) log' marks (m.failed error) := by
  have hcount := Message.retryCount_failed room error
  have hstill : (m.failed error).isPending = m.isPending := rfl
  constructor
  -- the row was pending and still is, so both counts grow by one
  case tried =>
    rw [hcount, hstill, h.tried, hpending]
    omega
  case readable =>
    intro hr
    rw [← h.readable hr]
    exact hread hr
  case unreadable =>
    intro hr
    refine ⟨?_, hpending⟩
    rw [← (h.unreadable hr).1]
    exact hunread hr
  case failed =>
    rw [hcount]
    exact ⟨fun _ => Nat.succ_pos _, fun _ => rfl⟩
  case marked => exact h.marked

/-- The account after a mark. -/
theorem Balanced.afterMark {tries : Nat} {log log' : List Uuid} {marks : List (Uuid × Nat)}
    {m : Message} (h : Balanced registry tries log marks m) (hpending : m.isPending = true)
    (at_ : Instant) (n : Nat) (hr : Readable registry m)
    (hread : log'.count m.id = log.count m.id + 1) :
    Balanced registry (tries + 1) log' (marks ++ [(m.id, n)]) (m.marked at_) := by
  have hmarked : m.marked at_ = m.markProcessed at_ := if_pos hpending
  rw [hmarked]
  have hdone : (m.markProcessed at_).isPending = false := rfl
  constructor
  -- the failure count stays, and the mark accounts for the one more try
  case tried =>
    rw [hdone, h.tried, hpending]
    rfl
  case readable =>
    intro _
    rw [← h.readable hr]
    exact hread
  case unreadable => exact fun hnot => absurd hr hnot
  case failed => exact h.failed
  case marked =>
    refine ⟨fun _ => ⟨n, ?_⟩, fun _ => hdone⟩
    -- the new mark is the witness
    exact List.mem_append_right _ List.mem_cons_self

/-! ## §2 The accounts of a service -/

/-- The identifiers in the log. -/
def logIds (w : Service κ ι E) : List Uuid :=
  w.log.map Event.id

/-- The number of cycles that reached a row. -/
def reachedBy (h : List (List Uuid)) (id : Uuid) : Nat :=
  h.countP fun reached => id ∈ reached

/-- A mark stands behind a publication of its row and before no other. -/
def Placed (log : List Uuid) (p : Uuid × Nat) : Prop :=
  p.1 ∈ log.take p.2 ∧ p.1 ∉ log.drop p.2

/-- What is logged about other rows does not displace a mark. -/
theorem Placed.append {log more : List Uuid} {p : Uuid × Nat} (h : Placed log p)
    (hmore : p.1 ∉ more) : Placed (log ++ more) p := by
  obtain ⟨hbefore, hafter⟩ := h
  rw [Placed, List.take_append, List.drop_append]
  refine ⟨List.mem_append_left _ hbefore, fun hmem => ?_⟩
  rcases List.mem_append.mp hmem with hmem | hmem
  · exact hafter hmem
  · exact hmore (List.mem_of_mem_drop hmem)

/-- The newest mark of a published row is in its place. -/
theorem placed_at_end {log : List Uuid} {id : Uuid} (h : id ∈ log) :
    Placed log (id, log.length) := by
  rw [Placed, List.take_length, List.drop_length]
  exact ⟨h, List.not_mem_nil⟩

/-- Every row is balanced; log, cycles and marks are about rows that are stored; and every mark is
in its place. -/
structure Accounts (registry : Registry κ) (h : List (List Uuid)) (w : Service κ ι E) : Prop where
  sound : w.store.Sound
  rows : ∀ m ∈ w.store.messages, Balanced registry (reachedBy h m.id) w.logIds w.marks m
  log_known : ∀ id ∈ w.logIds, id ∈ w.store.ids
  tries_known : ∀ reached ∈ h, ∀ id ∈ reached, id ∈ w.store.ids
  marks_known : ∀ p ∈ w.marks, p.1 ∈ w.store.ids
  marks_placed : ∀ p ∈ w.marks, Placed w.logIds p

/-- A fresh service has no rows, no log and no marks. -/
theorem accounts_of_fresh {w : Service κ ι E} (hw : w.Fresh) : Accounts registry [] w := by
  have hlog : w.logIds = [] := by rw [logIds, hw.log, List.map_nil]
  constructor
  case sound =>
    rw [hw.store]
    exact Store.sound_empty {}
  case rows =>
    intro m hm
    rw [hw.store] at hm
    simp [Store.messages] at hm
  case log_known => simp [hlog]
  case tries_known => simp
  case marks_known => simp [hw.marks]
  case marks_placed => simp [hw.marks]

/-- Nothing was ever done about a row whose identifier is unknown. -/
theorem Accounts.balanced_of_unknown {h : List (List Uuid)} {w : Service κ ι E}
    (hw : Accounts registry h w) {m : Message} (hm : m.Untouched) (hnew : m.id ∉ w.store.ids) :
    Balanced registry (reachedBy h m.id) w.logIds w.marks m := by
  have htries : reachedBy h m.id = 0 := by
    rw [reachedBy, List.countP_eq_zero]
    intro reached hreached hmem
    exact hnew (hw.tries_known reached hreached m.id (of_decide_eq_true hmem))
  rw [htries]
  apply balanced_of_untouched hm
  · exact fun hmem => hnew (hw.log_known _ hmem)
  · exact fun n hmem => hnew (hw.marks_known _ hmem)

/-- Rows that are added are accounted for. -/
theorem Accounts.extends {h : List (List Uuid)} {w w' : Service κ ι E}
    (hw : Accounts registry h w) (hextends : w.store.Extends w'.store) (hlog : w'.log = w.log)
    (hmarks : w'.marks = w.marks) : Accounts registry h w' := by
  obtain ⟨ms, hms, huntouched⟩ := hextends.rows
  have hsound := hextends.sound hw.sound
  -- the identifiers in the log and in the journal were known before, and stay known
  have hids : w'.store.ids = w.store.ids ++ ms.map Message.id := by
    rw [Store.ids_eq_map_messages, hms, List.map_append, ← Store.ids_eq_map_messages]
  have hlogIds : w'.logIds = w.logIds := by rw [logIds, hlog, logIds]
  have hknown : ∀ id ∈ w.store.ids, id ∈ w'.store.ids := fun id hid => by
    rw [hids]
    exact List.mem_append_left _ hid
  constructor
  case sound => exact hsound
  case rows =>
    intro m hm
    rw [hms] at hm
    rw [hlogIds, hmarks]
    rcases List.mem_append.mp hm with hm | hm
    · exact hw.rows m hm
    · -- the identifiers of the new store are distinct, so this one is none of the old ones
      refine hw.balanced_of_unknown (huntouched m hm) fun hold => ?_
      have hnodup := hsound.ids_nodup
      rw [hids, List.nodup_append] at hnodup
      exact hnodup.2.2 m.id hold m.id (List.mem_map_of_mem hm) rfl
  case log_known =>
    rw [hlogIds]
    exact fun id hid => hknown id (hw.log_known id hid)
  case tries_known =>
    exact fun reached hreached id hid => hknown id (hw.tries_known reached hreached id hid)
  case marks_known =>
    rw [hmarks]
    exact fun p hp => hknown p.1 (hw.marks_known p hp)
  case marks_placed =>
    rw [hlogIds, hmarks]
    exact hw.marks_placed

/-- What happens beside the store, the log and the journal keeps the accounts. -/
theorem Accounts.idle {h : List (List Uuid)} {w w' : Service κ ι E} (hw : Accounts registry h w)
    (hidle : Idle w w') : Accounts registry h w' := by
  obtain ⟨faults, rest, rfl⟩ := hidle
  exact ⟨hw.sound.congr rfl rfl, hw.rows, hw.log_known, hw.tries_known, hw.marks_known,
    hw.marks_placed⟩

/-- A cycle begins without having reached anything. -/
theorem Accounts.begin {h : List (List Uuid)} {w : Service κ ι E} (hw : Accounts registry h w) :
    Accounts registry (h ++ [[]]) w := by
  -- an empty list of rows adds nothing to any count
  have htries : ∀ id, reachedBy (h ++ [[]]) id = reachedBy h id := by
    intro id
    simp [reachedBy, List.countP_append]
  constructor
  case sound => exact hw.sound
  case rows =>
    intro m hm
    rw [htries]
    exact hw.rows m hm
  case log_known => exact hw.log_known
  case tries_known =>
    intro reached hreached id hid
    rcases List.mem_append.mp hreached with hreached | hreached
    · exact hw.tries_known reached hreached id hid
    · rw [List.mem_singleton.mp hreached] at hid
      simp at hid
  case marks_known => exact hw.marks_known
  case marks_placed => exact hw.marks_placed

/-- Reaching one more row counts for that row. -/
theorem reachedBy_concat (h : List (List Uuid)) {visited : List Uuid} {id : Uuid}
    (hnew : id ∉ visited) (id' : Uuid) :
    reachedBy (h ++ [visited ++ [id]]) id' =
      reachedBy (h ++ [visited]) id' + if id' = id then 1 else 0 := by
  by_cases hid : id' = id
  · subst hid
    simp [reachedBy, List.countP_append, hnew]
  · simp [reachedBy, List.countP_append, List.countP_cons, hid]

/-! ## §3 Reaching a row -/

/-- The service after events were logged, the row of an identifier was changed, and marks were
noted. -/
def settled (es : List (Event κ)) (id : Uuid) (f : Message → Message) (extra : List (Uuid × Nat))
    (w : Service κ ι E) : Service κ ι E :=
  { w with
    log := w.log ++ es
    store := w.store.change id f
    marks := w.marks ++ extra }

/-- Settling a row extends the log. -/
theorem logIds_settled (es : List (Event κ)) (id : Uuid) (f : Message → Message)
    (extra : List (Uuid × Nat)) (w : Service κ ι E) :
    (w.settled es id f extra).logIds = w.logIds ++ es.map Event.id := by
  simp [logIds, settled]

/-- How a cycle may settle a row: it logs events of the row only, changes no more than its delivery
state, and marks it only behind such an event. -/
structure Settles (m : Message) (es : List (Event κ)) (f : Message → Message)
    (extra : List (Uuid × Nat)) (w : Service κ ι E) : Prop where
  stored : m ∈ w.store.messages
  pending : m.isPending = true
  events : ∀ e ∈ es, e.id = m.id
  sameEvent : ∀ m' : Message, m'.SameEvent (f m')
  marks : ∀ p ∈ extra, p = (m.id, (w.log ++ es).length) ∧ es ≠ []

section Settles

variable {h : List (List Uuid)} {visited : List Uuid} {w : Service κ ι E} {m : Message}
  {es : List (Event κ)} {f : Message → Message} {extra : List (Uuid × Nat)}

/-- Only the settled row is logged. -/
theorem Settles.eq_of_logged (hs : Settles m es f extra w) {id : Uuid}
    (hid : id ∈ es.map Event.id) : id = m.id := by
  obtain ⟨e, he, rfl⟩ := List.mem_map.mp hid
  exact hs.events e he

/-- The settled row has its new account, and nothing was done about the others. -/
theorem Accounts.rows_settled (hw : Accounts registry (h ++ [visited]) w)
    (hs : Settles m es f extra w) (hnew : m.id ∉ visited)
    (row : Balanced registry (reachedBy (h ++ [visited]) m.id + 1) (w.logIds ++ es.map Event.id)
      (w.marks ++ extra) (f m)) :
    ∀ m' ∈ (w.settled es m.id f extra).store.messages,
      Balanced registry (reachedBy (h ++ [visited ++ [m.id]]) m'.id)
        (w.settled es m.id f extra).logIds (w.settled es m.id f extra).marks m' := by
  intro m' hm'
  rw [logIds_settled, reachedBy_concat h hnew]
  rcases (Store.mem_messages_change hw.sound hs.stored f).mp hm' with rfl | ⟨hm', hne⟩
  · -- the row at hand, reached once more, with what was logged and marked
    rw [(hs.sameEvent m).id, if_pos rfl]
    exact row
  · -- neither the log nor the marks nor the rows reached say more about another row
    apply (hw.rows m' hm').congr
    · rw [if_neg hne, Nat.add_zero]
    · have hother : m'.id ∉ es.map Event.id := fun hid => hne (hs.eq_of_logged hid)
      rw [List.count_append, List.count_eq_zero_of_not_mem hother, Nat.add_zero]
    · intro n
      simp only [Service.settled, List.mem_append, or_iff_left_iff_imp]
      intro hmem
      exact absurd (congrArg Prod.fst (hs.marks _ hmem).1) hne

/-- Older marks are not about the settled row, which was pending; a new one stands at the end of the
log. -/
theorem Accounts.marks_settled (hw : Accounts registry (h ++ [visited]) w)
    (hs : Settles m es f extra w) :
    ∀ p ∈ (w.settled es m.id f extra).marks, Placed (w.settled es m.id f extra).logIds p := by
  rw [logIds_settled]
  intro p hp
  rcases List.mem_append.mp hp with hp | hp
  · -- an older mark of the settled row would have processed it
    refine (hw.marks_placed p hp).append fun hmem => ?_
    have hprocessed : m.isPending = false :=
      (hw.rows m hs.stored).marked.mpr ⟨p.2, hs.eq_of_logged hmem ▸ hp⟩
    rw [hs.pending] at hprocessed
    cases hprocessed
  · -- a new mark stands behind the event that was just logged
    obtain ⟨rfl, hsome⟩ := hs.marks p hp
    obtain ⟨e, he⟩ := List.exists_mem_of_ne_nil es hsome
    have hlength : (w.log ++ es).length = (w.logIds ++ es.map Event.id).length := by
      simp [logIds]
    rw [hlength]
    apply placed_at_end
    exact List.mem_append_right _ (List.mem_map.mpr ⟨e, he, hs.events e he⟩)

/-- A cycle that settles one more row keeps the accounts, if it balances the account of that row. -/
theorem Accounts.settled (hw : Accounts registry (h ++ [visited]) w)
    (hs : Settles m es f extra w) (hnew : m.id ∉ visited)
    (row : Balanced registry (reachedBy (h ++ [visited]) m.id + 1) (w.logIds ++ es.map Event.id)
      (w.marks ++ extra) (f m)) :
    Accounts registry (h ++ [visited ++ [m.id]]) (w.settled es m.id f extra) := by
  have hids : (w.settled es m.id f extra).store.ids = w.store.ids :=
    Store.ids_change hw.sound m.id fun m => (hs.sameEvent m).id
  have hstored : m.id ∈ w.store.ids := Store.mem_ids_iff.mpr ⟨m, hs.stored, rfl⟩
  constructor
  case sound => exact hw.sound.change m.id fun m => (hs.sameEvent m).id
  case rows => exact hw.rows_settled hs hnew row
  case log_known =>
    rw [logIds_settled, hids]
    intro id hid
    rcases List.mem_append.mp hid with hid | hid
    · exact hw.log_known id hid
    · rw [hs.eq_of_logged hid]
      exact hstored
  -- the rows visited so far were known, and the new one is stored
  case tries_known =>
    rw [hids]
    intro reached hreached id hid
    rcases List.mem_append.mp hreached with hreached | hreached
    · exact hw.tries_known reached (List.mem_append_left _ hreached) id hid
    · rw [List.mem_singleton.mp hreached] at hid
      rcases List.mem_append.mp hid with hid | hid
      · exact hw.tries_known visited (List.mem_append_right _ List.mem_cons_self) id hid
      · rw [List.mem_singleton.mp hid]
        exact hstored
  case marks_known =>
    rw [hids]
    intro p hp
    rcases List.mem_append.mp hp with hp | hp
    · exact hw.marks_known p hp
    · rw [(hs.marks p hp).1]
      exact hstored
  case marks_placed => exact hw.marks_settled hs

end Settles

/-! ## §4 Cycles -/

/-- Moves that leave the log and the journal of marks alone. -/
structure Quiet [DecidableEq ι] (w w' : Service κ ι E) : Prop where
  moves : Moves w w'
  log : w'.log = w.log
  marks : w'.marks = w.marks

/-- Commits touch the store and the objects only. -/
theorem quiet_commit [DecidableEq ι] (w : Service κ ι E) {track : List (ι × TrackState)}
    (distinct : (track.map Prod.fst).Nodup) (a : Attempt) : Quiet w (w.commit track a) := by
  obtain ⟨s, u, hcommit, -⟩ := commit_parts track a w
  refine ⟨.single (.commit track a distinct), ?_, ?_⟩
  · rw [hcommit]
    rfl
  · rw [hcommit]
    rfl

/-- In the midst of a cycle, the accounts hold with the rows that were visited, and the other rows
of the batch are as they were fetched. -/
structure InCycle (registry : Registry κ) (h : List (List Uuid)) (batch visited : List Message)
    (w : Service κ ι E) : Prop where
  accounts : Accounts registry (h ++ [visited.map Message.id]) w
  waiting : ∀ m ∈ batch, m.id ∉ visited.map Message.id → m ∈ w.store.messages

/-- The service with events at the end of its log. -/
def logged (es : List (Event κ)) (w : Service κ ι E) : Service κ ι E :=
  { w with log := w.log ++ es }

/-- A service whose log has grown is one with the shorter log, and more logged. -/
theorem logged_of_log_eq {w v : Service κ ι E} {es : List (Event κ)} (h : w.log = v.log ++ es) :
    logged es { w with log := v.log } = w := by
  cases w
  simp only at h
  simp only [logged, h]

/-- What happens beside the store keeps the invariant of a cycle. -/
theorem InCycle.idle {h : List (List Uuid)} {batch visited : List Message} {w w' : Service κ ι E}
    (hw : InCycle registry h batch visited w) (hidle : Idle w w') :
    InCycle registry h batch visited w' := by
  refine ⟨hw.accounts.idle hidle, ?_⟩
  obtain ⟨faults, rest, rfl⟩ := hidle
  exact hw.waiting

/-- Rows that are added between two visits keep the invariant of a cycle. -/
theorem InCycle.extends {h : List (List Uuid)} {batch visited : List Message} {w w' : Service κ ι E}
    (hw : InCycle registry h batch visited w) (hextends : w.store.Extends w'.store)
    (hlog : w'.log = w.log) (hmarks : w'.marks = w.marks) :
    InCycle registry h batch visited w' := by
  refine ⟨hw.accounts.extends hextends hlog hmarks, fun m hm hnew => ?_⟩
  obtain ⟨ms, hms, -⟩ := hextends.rows
  rw [hms]
  exact List.mem_append_left _ (hw.waiting m hm hnew)

/-- Settling a row of the batch visits it. -/
theorem InCycle.settled {h : List (List Uuid)} {batch visited : List Message} {w : Service κ ι E}
    (hw : InCycle registry h batch visited w) {m : Message} (hm : m ∈ w.store.messages)
    {es : List (Event κ)} {f : Message → Message} {extra : List (Uuid × Nat)}
    (haccounts : Accounts registry (h ++ [visited.map Message.id ++ [m.id]])
      (w.settled es m.id f extra)) :
    InCycle registry h batch (visited ++ [m]) (w.settled es m.id f extra) := by
  -- the fetched rows that are still to come are not touched, since they have other identifiers
  have hvisited : (visited ++ [m]).map Message.id = visited.map Message.id ++ [m.id] := by
    rw [List.map_append, List.map_singleton]
  rw [← hvisited] at haccounts
  refine ⟨haccounts, fun m' hm' hnew => ?_⟩
  rw [hvisited, List.mem_append, not_or, List.mem_singleton] at hnew
  exact (Store.mem_messages_change hw.accounts.sound hm f).mpr
    (.inr ⟨hw.waiting m' hm' hnew.1, hnew.2⟩)

/-- A row that a cycle has not visited has room for one more failed attempt, when there are few
enough cycles. -/
theorem InCycle.room {h : List (List Uuid)} {batch visited : List Message} {w : Service κ ι E}
    (hw : InCycle registry h batch visited w) (hfew : h.length + 1 < UInt32.size) {m : Message}
    (hm : m ∈ w.store.messages) (hnew : m.id ∉ visited.map Message.id) :
    m.retryCount.toNat + 1 < UInt32.size := by
  have htried := (hw.accounts.rows m hm).tried
  -- the cycle at hand has not counted for the row yet
  have hearlier : reachedBy (h ++ [visited.map Message.id]) m.id ≤ h.length := by
    rw [reachedBy, List.countP_append, List.countP_singleton, if_neg (by simpa using hnew)]
    exact List.countP_le_length
  omega

/-- A failed attempt settles the row, whether its event was published before or it could not be
read. -/
theorem InCycle.failed {h : List (List Uuid)} {batch visited : List Message} {w : Service κ ι E}
    (hw : InCycle registry h batch visited w) (hfew : h.length + 1 < UInt32.size) {m : Message}
    (hm : m ∈ w.store.messages) (hpending : m.isPending = true)
    (hnew : m.id ∉ visited.map Message.id) {es : List (Event κ)}
    (hes : (Readable registry m ∧ ∃ e, es = [e] ∧ e.id = m.id) ∨ (¬ Readable registry m ∧ es = []))
    {d : Dispatcher (Service κ ι E) κ} (hd : Serves d) (f : Failure) (outcome : RowOutcome) :
    (d.recordFailure m f outcome).Ensures (logged es w)
      (fun _ w' => InCycle registry h batch (visited ++ [m]) w') (fun _ => False) := by
  have hroom := hw.room hfew hm hnew
  have hrun := outbox_recordFailure_run (w := logged es w) hw.accounts.sound hm f.text hroom
  rw [Dispatcher.recordFailure_ensures, hd.outbox]
  refine Action.ensures_of_run_ok hrun ?_
  -- counting a failure is a way of settling the row, which marks nothing
  have hsettled : (logged es w).failed m.id f.text =
      w.settled es m.id (Message.failed · f.text) [] := by
    simp only [Service.failed, logged, Service.settled, List.append_nil]
  have hsettles : Settles m es (Message.failed · f.text) [] w := by
    refine ⟨hm, hpending, fun e he => ?_, Message.sameEvent_failed f.text, fun p hp => ?_⟩
    · rcases hes with ⟨-, e', rfl, hid⟩ | ⟨-, rfl⟩
      · rw [List.mem_singleton.mp he, hid]
      · simp at he
    · simp at hp
  rw [hsettled]
  refine hw.settled hm (hw.accounts.settled hsettles hnew ?_)
  -- a readable row was published once just now, and an unreadable one was not published
  rw [List.append_nil]
  apply (hw.accounts.rows m hm).afterFailure hpending hroom f.text
  · intro hr
    rcases hes with ⟨-, e, rfl, hid⟩ | ⟨hnot, -⟩
    · simp [List.count_append, hid]
    · exact absurd hr hnot
  · intro hr
    rcases hes with ⟨hread, -⟩ | ⟨-, rfl⟩
    · exact absurd hread hr
    · simp

/-- A mark settles the row whose event was published. -/
theorem InCycle.marked {h : List (List Uuid)} {batch visited : List Message} {w : Service κ ι E}
    (hw : InCycle registry h batch visited w) {m : Message} (hm : m ∈ w.store.messages)
    (hpending : m.isPending = true) (hnew : m.id ∉ visited.map Message.id) {e : Event κ}
    (hread : Readable registry m) (hid : e.id = m.id) (at_ : Instant) :
    InCycle registry h batch (visited ++ [m]) ((logged [e] w).marked m.id at_) := by
  -- a mark is a way of settling the row too, behind its event
  have hsettled : (logged [e] w).marked m.id at_ =
      w.settled [e] m.id (Message.marked at_) [(m.id, (w.log ++ [e]).length)] := rfl
  have hsettles : Settles m [e] (Message.marked at_) [(m.id, (w.log ++ [e]).length)] w := by
    refine ⟨hm, hpending, fun e' he' => ?_, Message.sameEvent_marked at_, fun p hp => ?_⟩
    · rw [List.mem_singleton.mp he', hid]
    · exact ⟨List.mem_singleton.mp hp, List.cons_ne_nil _ _⟩
  rw [hsettled]
  refine hw.settled hm (hw.accounts.settled hsettles hnew ?_)
  refine (hw.accounts.rows m hm).afterMark hpending at_ _ hread ?_
  simp [List.count_append, hid]

/-- Handlers that always answer, and that leave the log and the marks to the cycle. -/
def Polite [DecidableEq ι] (bus : Bus (Service κ ι E) κ) : Prop :=
  ∀ s ∈ bus.subscriptions, ∀ body w,
    (s.handler.handle body).Ensures w (fun _ w' => Quiet w w') fun _ => False

section Cycle

variable [DecidableEq ι] [DecidableEq κ]

omit [DecidableEq κ] in
theorem Quiet.refl (w : Service κ ι E) : Quiet w w := ⟨.refl, rfl, rfl⟩

omit [DecidableEq κ] in
theorem Quiet.trans (u v w : Service κ ι E) (h : Quiet u v) (h' : Quiet v w) : Quiet u w :=
  ⟨Relation.ReflTransGen.trans h.moves h'.moves, h'.log.trans h.log, h'.marks.trans h.marks⟩

/-- Publishing logs the event; the rest is quiet. -/
theorem Polite.publish {bus : Bus (Service κ ι E) κ} (hbus : Polite bus) (e : Event κ)
    (w : Service κ ι E) :
    (bus.publish logCell e).Ensures w (fun _ w' => Quiet (logged [e] w) w') fun _ => False := by
  -- the handlers move quietly one after another, and the bus has logged the event before the first
  have hpublish := bus.publish_ensures logCell (e := e) (J := fun _ => True) (X := fun _ => False)
    (R := Quiet) (P := fun _ _ => True) Quiet.refl Quiet.trans (fun _ _ _ _ _ => trivial)
    (fun s hs v _ => ?_) (w := w) trivial
  · exact hpublish.mono (fun _ _ h => h.2.1) fun _ h => h
  · -- a handler of another kind of events is not called, and the others are polite
    refine Bus.deliver_ensures ⟨trivial, .refl v, fun _ => trivial⟩ fun body _ => ?_
    exact (hbus s (List.mem_filter.mp hs).1 body v).mono
      (fun _ _ hquiet => ⟨trivial, hquiet, fun _ => trivial⟩) fun _ hfalse => hfalse

variable {d : Dispatcher (Service κ ι E) κ}

omit [DecidableEq ι] [DecidableEq κ] in
/-- After a row was published, its mark settles it, or a failed attempt does when the mark meets a
fault. -/
theorem InCycle.markRow {h : List (List Uuid)} {batch visited : List Message} {v : Service κ ι E}
    (hv : InCycle registry h batch visited v) (hd : Serves d) (hfew : h.length + 1 < UInt32.size)
    {m : Message} (hm : m ∈ batch) (hpending : m.isPending = true)
    (hnew : m.id ∉ visited.map Message.id) {e : Event κ} (hread : Readable registry m)
    (hid : e.id = m.id) (at_ : Instant) :
    (d.outbox.markProcessed m.id at_).Ensures (logged [e] v) (fun
      | .error f, w' => (d.recordFailure m f .failed).Ensures w'
        (fun _ w'' => InCycle registry h batch (visited ++ [m]) w'') (fun _ => False)
      | .ok (), w' => InCycle registry h batch (visited ++ [m]) w') (fun _ => False) := by
  have hmem := hv.waiting m hm hnew
  rw [hd.outbox]
  rcases outbox_markProcessed_run (w := logged [e] v) hv.accounts.sound hmem at_ with
    ⟨f, w₁, hrun, faults, rest, rfl⟩ | hrun
  · -- the mark met a fault, which is a failed attempt of a published row
    have hidle : InCycle registry h batch visited
        { v with store := { v.store with faults }, rest } := hv.idle ⟨faults, rest, rfl⟩
    refine Action.ensures_of_run_ok hrun ?_
    exact hidle.failed hfew hmem hpending hnew (.inl ⟨hread, e, rfl, hid⟩) hd f .failed
  · refine Action.ensures_of_run_ok hrun ?_
    exact hv.marked hmem hpending hnew hread hid at_

/-- Delivering a row of the batch settles it. -/
theorem InCycle.dispatchRow {h : List (List Uuid)} {batch visited : List Message}
    {w : Service κ ι E} (hw : InCycle d.registry h batch visited w) (hd : Serves d)
    {bus : Bus (Service κ ι E) κ} (hbus : Polite bus) (hpublish : d.publish = bus.publish logCell)
    (hfew : h.length + 1 < UInt32.size) {m : Message} (hm : m ∈ batch)
    (hpending : m.isPending = true) (hnew : m.id ∉ visited.map Message.id)
    (hreads : ∀ e, d.registry.decode m.eventType m.payload = .ok e → e.id = m.id) :
    (d.dispatchRow m).Ensures w
      (fun _ w' => InCycle d.registry h batch (visited ++ [m]) w') (fun _ => False) := by
  apply Dispatcher.dispatchRow_ensures
  · -- an unreadable row is not published, and its failed attempt settles it
    intro cause hdecode
    have hunread := not_readable_of_error hdecode
    have hlogged : logged [] w = w := by simp [logged]
    have hfailed := hw.failed hfew (hw.waiting m hm hnew) hpending hnew (.inr ⟨hunread, rfl⟩) hd
      cause.failure .skipped
    rwa [hlogged] at hfailed
  · intro e hdecode
    have hread : Readable d.registry m := ⟨e, hdecode⟩
    have hid : e.id = m.id := hreads e hdecode
    rw [hpublish]
    refine (hbus.publish e w).mono (fun answer w₁ hquiet => ?_) fun _ hfalse => hfalse
    -- without the new entry of the log, the handlers' moves keep what held before
    obtain ⟨v, hv, rfl⟩ : ∃ v, InCycle d.registry h batch visited v ∧ logged [e] v = w₁ :=
      ⟨{ w₁ with log := w.log }, hw.extends hquiet.moves.extends rfl hquiet.marks,
        logged_of_log_eq hquiet.log⟩
    -- the answer of the bus decides between a failed attempt and the mark
    rcases answer with f | _
    · have hmem := hv.waiting m hm hnew
      exact hv.failed hfew hmem hpending hnew (.inl ⟨hread, e, rfl, hid⟩) hd f .failed
    · have hmark := hv.markRow hd hfew hm hpending hnew hread hid (d.clock (logged [e] v))
      refine Action.Ensures.mono hmark (fun answer w₂ h => ?_) fun _ hfalse => hfalse
      rcases answer with f | _
      · exact h
      · exact h

/-- A cycle keeps the accounts, with the rows that it reached. -/
theorem Accounts.cycle {h : List (List Uuid)} {w : Service κ ι E}
    (hw : Accounts d.registry h w) (hd : Serves d) {bus : Bus (Service κ ι E) κ}
    (hbus : Polite bus) (hpublish : d.publish = bus.publish logCell)
    (hfew : h.length + 1 < UInt32.size) (hreads : Faithful d.registry w) :
    Accounts d.registry (h ++ [(d.reached w).map Message.id]) (d.dispatchOnce.run w).2 := by
  have hcycle := hd.dispatchOnce_ensures (w := w) (X := fun _ => False)
    (I := InCycle d.registry h (d.batch w)) ?_ (fun visited v v' hv hidle => hv.idle hidle) ?_
  · exact (Dispatcher.holds_after_cycle hcycle).accounts
  · -- at the start no row was visited, and the batch was fetched from the store
    exact ⟨hw.begin, fun m hm _ => (hd.mem_batch hm).1⟩
  · intro visited m rest v hbatch hv
    obtain ⟨hstored, hpending, hnew⟩ := hd.next_in_batch hbatch
    have hm : m ∈ d.batch w := by simp [hbatch]
    exact hv.dispatchRow hd hbus hpublish hfew hm hpending (hnew hw.sound) (hreads m hstored)

/-! ## §5 Runs -/

/-- The dispatchers that read by one registry and publish for polite handlers. -/
structure PublishingFor (registry : Registry κ) (d : Dispatcher (Service κ ι E) κ) : Prop where
  registry : d.registry = registry
  bus : ∃ bus : Bus (Service κ ι E) κ, Polite bus ∧ d.publish = bus.publish logCell

/-- Publishing for polite handlers keeps the identities of all rows. -/
theorem PublishingFor.keeps (h : PublishingFor registry d) (e : Event κ) :
    (d.publish e).Within fun w w' => w.store.Keeps w'.store := by
  obtain ⟨bus, hbus, hpublish⟩ := h.bus
  rw [hpublish]
  intro w
  have hkeeps : (bus.publish logCell e).Ensures w (fun _ w' => w.store.Keeps w'.store)
      (fun w' => w.store.Keeps w'.store) :=
    (hbus.publish e w).mono (fun _ w' hquiet => hquiet.moves.extends.keeps)
      fun _ hfalse => hfalse.elim
  exact hkeeps.world

/-- The accounts hold after every run that is short enough. -/
theorem accounts_of_run {h : List (List Uuid)} {w : Service κ ι E}
    (hrun : Run Quiet (PublishingFor registry) h w) (hreads : Faithful registry w)
    (hfew : h.length < UInt32.size) : Accounts registry h w := by
  -- the bound on the number of cycles is inherited by every shorter run
  revert hfew
  refine Run.induction_faithful
    (P := fun h w => h.length < UInt32.size → Accounts registry h w)
    (fun v w hquiet => hquiet.moves.extends.keeps) (fun d hd e => hd.keeps e)
    (fun w hfresh _ => accounts_of_fresh hfresh)
    (fun h v w hv hquiet hfew => (hv hfew).extends hquiet.moves.extends hquiet.log hquiet.marks)
    (fun h v d hv hserves hd hreads hfew => ?_) hrun hreads
  obtain ⟨bus, hbus, hpublish⟩ := hd.bus
  obtain rfl := hd.registry
  rw [List.length_append, List.length_singleton] at hfew
  exact (hv (Nat.lt_of_succ_lt hfew)).cycle hserves hbus hpublish hfew hreads

/-- What a row, the log and the journal of marks say about the deliveries of the row. -/
structure DeliveryBalance (registry : Registry κ) (h : List (List Uuid)) (w : Service κ ι E)
    (m : Message) : Prop where
  /-- A row that can be read was published as often as it failed, and once more when it is
  processed. -/
  readable : ∀ e, registry.decode m.eventType m.payload = .ok e →
    (w.log.map Event.id).count m.id = m.retryCount.toNat + if m.isPending then 0 else 1
  /-- A row that cannot be read was never published, is not processed, and failed in every cycle
  that reached it. -/
  unreadable : ∀ cause, registry.decode m.eventType m.payload = .error cause →
    m.id ∉ w.log.map Event.id ∧ m.isPending = true ∧
      m.retryCount.toNat = h.countP fun reached => m.id ∈ reached
  lastError : m.lastError.isSome = true ↔ 0 < m.retryCount.toNat
  /-- A row is processed exactly when it was marked. -/
  processed : m.isPending = false ↔ ∃ n, (m.id, n) ∈ w.marks
  /-- It was published before it was marked, and not again afterwards. -/
  placed : ∀ n, (m.id, n) ∈ w.marks →
    m.id ∈ (w.log.take n).map Event.id ∧ m.id ∉ (w.log.drop n).map Event.id

/-- After a run of fewer than 2³² cycles, the deliveries of every row balance. -/
theorem deliveries_balance {h : List (List Uuid)} {w : Service κ ι E}
    (hrun : Run Quiet (PublishingFor registry) h w) (hreads : Faithful registry w)
    (hfew : h.length < UInt32.size) : ∀ m ∈ w.store.messages, DeliveryBalance registry h w m := by
  have hw := accounts_of_run hrun hreads hfew
  intro m hm
  have hrow := hw.rows m hm
  constructor
  case readable =>
    intro e hdecode
    exact (hrow.readable ⟨e, hdecode⟩).trans hrow.tried
  case unreadable =>
    intro cause hdecode
    -- a pending row was tried as often as it failed
    obtain ⟨hcount, hpending⟩ := hrow.unreadable (not_readable_of_error hdecode)
    refine ⟨List.count_eq_zero.mp hcount, hpending, ?_⟩
    have htried := hrow.tried
    rw [hpending, if_pos rfl, Nat.add_zero] at htried
    exact htried.symm
  case lastError => exact hrow.failed
  case processed => exact hrow.marked
  case placed =>
    intro n hmark
    have hplaced := hw.marks_placed _ hmark
    rw [Placed, logIds, ← List.map_take, ← List.map_drop] at hplaced
    exact hplaced

end Cycle

private def printing : Bus Shop.Desk Shop.Kind := ⟨[Shop.printer]⟩

private theorem polite_printing : Polite printing := by
  intro s hs
  obtain rfl := List.mem_singleton.mp hs
  exact fun _ _ => ⟨.single (.elsewhere rfl rfl rfl), rfl, rfl⟩

private def ordered : Shop.Desk :=
  (Shop.desk.raise true (Shop.created 1)).commit [(true, .added)] Shop.purchase

private def jammed : Shop.Desk :=
  ((Shop.courier printing).dispatchOnce.run ordered).2

/-- The next mark fails. -/
private def armed : Shop.Desk :=
  { jammed with store := jammed.store.failNextMark (.plain .databaseError "connection reset") }

private def delivered : Shop.Desk :=
  ((Shop.courier printing).dispatchOnce.run ((Shop.courier printing).dispatchOnce.run armed).2).2

/-- An event of which the dispatcher does not know the type. -/
private def renamed : Shop.Desk :=
  (delivered.raise false (Shop.renamed 2)).commit [(false, .added)] Shop.purchase

private def closed : Shop.Desk :=
  ((Shop.courier printing).dispatchOnce.run renamed).2

/-- The printer fails, then the mark fails, and then the row is processed; another row cannot be
read. -/
theorem balance_after_failed_handler_and_mark :
    closed.log.map Event.id = [Uuid.ofNat 1, Uuid.ofNat 1, Uuid.ofNat 1] ∧
    closed.store.messages.map (fun m => (m.isPending, m.retryCount)) = [(false, 2), (true, 1)] ∧
    closed.marks = [(Uuid.ofNat 1, 3)] ∧
    ∃ h, h = [[Uuid.ofNat 1], [Uuid.ofNat 1], [Uuid.ofNat 1], [Uuid.ofNat 2]] ∧
      ∀ m ∈ closed.store.messages, DeliveryBalance (.ofList [.itemCreated]) h closed m := by
  have hcourier : PublishingFor (.ofList [.itemCreated]) (Shop.courier printing) :=
    ⟨rfl, printing, polite_printing, rfl⟩
  have hserves := Shop.serves_courier printing
  have hstart : Run Quiet (PublishingFor (.ofList [.itemCreated])) [] Shop.desk :=
    .start Shop.fresh_desk
  have hordered : Run Quiet _ _ ordered :=
    (hstart.move ⟨.single (.raise true (Shop.created 1) (by decide)), rfl, rfl⟩).move
      (quiet_commit _ (by decide) Shop.purchase)
  have hjammed : Run Quiet _ _ jammed := hordered.cycle _ hserves hcourier
  have harmed : Run Quiet _ _ armed := hjammed.move ⟨.single (.elsewhere rfl rfl rfl), rfl, rfl⟩
  have hdelivered : Run Quiet _ _ delivered :=
    (harmed.cycle _ hserves hcourier).cycle _ hserves hcourier
  have hrenamed : Run Quiet _ _ renamed :=
    (hdelivered.move ⟨.single (.raise false (Shop.renamed 2) (by decide +kernel)), rfl, rfl⟩).move
      (quiet_commit _ (by decide) Shop.purchase)
  have hclosed : Run Quiet _ _ closed := hrenamed.cycle _ hserves hcourier
  have hreads : Faithful (.ofList [.itemCreated]) closed := by decide +kernel
  refine ⟨by decide +kernel, by decide +kernel, by decide +kernel, _, ?_,
    deliveries_balance hclosed hreads (by decide)⟩
  decide +kernel

end EventOutbox.Service
