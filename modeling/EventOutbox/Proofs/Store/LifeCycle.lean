import EventOutbox.Proofs.Store.Entities
import EventOutbox.Proofs.Store.Ledger
import EventOutbox.Proofs.Store.Reachable

/-!
# The life of rows

What a store looks like after any operations, and what becomes of its rows when more operations
follow, whatever these answer.  Rows are filed under their own keys, and none of them disappears.
An outbox row stays in its place and changes in its delivery state only, which moves forward: failed
attempts are counted up, and the first mark stays.

## Main statement

- `Store.rows_endure`: what holds in every state, and from every state to every later one.
-/

namespace EventOutbox

/-! ## §1 Rows under their keys -/

namespace Table

variable {κ ρ : Type}

/-- Every row is filed under its own key, and no key has two rows. -/
structure Filed (key : ρ → κ) (t : Table κ ρ) : Prop where
  keys_nodup : (t.rows.map Prod.fst).Nodup
  own_key : ∀ p ∈ t.rows, key p.2 = p.1

theorem filed_empty (key : ρ → κ) : ({} : Table κ ρ).Filed key :=
  ⟨List.nodup_nil, by simp⟩

variable [DecidableEq κ]

/-- What is in the table afterwards was filed or was there. -/
theorem mem_putRow {k : κ} {r : ρ} {rows : List (κ × ρ)} {p : κ × ρ} (h : p ∈ putRow k r rows) :
    p = (k, r) ∨ p ∈ rows := by
  induction rows with
  | nil => exact .inl (List.mem_singleton.mp h)
  | cons row rows ih =>
    rw [putRow] at h
    split at h
    · exact (List.mem_cons.mp h).imp_right (List.mem_cons_of_mem row)
    · rcases List.mem_cons.mp h with rfl | h
      · exact .inr List.mem_cons_self
      · exact (ih h).imp_right (List.mem_cons_of_mem row)

/-- Filing a row adds its key at the end unless the key is there. -/
theorem map_fst_putRow (k : κ) (r : ρ) (rows : List (κ × ρ)) : (putRow k r rows).map Prod.fst =
    if k ∈ rows.map Prod.fst then rows.map Prod.fst else rows.map Prod.fst ++ [k] := by
  induction rows with
  | nil => simp [putRow]
  | cons row rows ih =>
    obtain ⟨l, s⟩ := row
    by_cases hl : l = k
    · simp [putRow, hl]
    · rw [putRow, if_neg hl, List.map_cons, ih]
      by_cases hk : k ∈ rows.map Prod.fst
      · simp [hk]
      · simp [hk, Ne.symm hl]

/-- Filing a row under its own key keeps every row under its own. -/
theorem Filed.put {key : ρ → κ} {t : Table κ ρ} (h : t.Filed key) (r : ρ) :
    (t.put (key r) r).Filed key := by
  constructor
  case keys_nodup =>
    show ((putRow (key r) r t.rows).map Prod.fst).Nodup
    rw [map_fst_putRow]
    split
    · exact h.keys_nodup
    · next hnew =>
      rw [← List.concat_eq_append]
      exact h.keys_nodup.concat hnew
  case own_key =>
    intro p hp
    rcases mem_putRow hp with rfl | hp
    · rfl
    · exact h.own_key p hp

end Table

namespace Store

/-! ## §2 What is kept -/

/-- How a store looks after any operations. -/
structure WellKept (s : Store) : Prop where
  /-- Outbox identifiers are distinct, and numbers increase and stay below the next. -/
  sound : s.Sound
  entities : s.entities.Filed EntityRow.key
  versions : ∀ p ∈ s.entities.rows, 1 ≤ p.2.version
  ledger : s.ledger.Filed LedgerRow.key

theorem wellKept_empty : WellKept {} where
  sound := sound_empty {}
  entities := Table.filed_empty _
  versions := by simp
  ledger := Table.filed_empty _

end Store

/-- A later state of a row: failed attempts are counted up, and the first mark stays. -/
structure Message.Later (m m' : Message) : Prop where
  sameEvent : m.SameEvent m'
  retries : m.retryCount ≤ m'.retryCount
  processed : ∀ t, m.processedAt = some t → m'.processedAt = some t

theorem Message.Later.refl (m : Message) : m.Later m :=
  ⟨.refl m, UInt32.le_refl _, fun _ h => h⟩

theorem Message.Later.trans {a b c : Message} (h : a.Later b) (h' : b.Later c) : a.Later c where
  sameEvent := h.sameEvent.trans h'.sameEvent
  retries := UInt32.le_trans h.retries h'.retries
  processed := fun t ht => h'.processed t (h.processed t ht)

/-- A mark leads to a later state, since a row that has one keeps it. -/
theorem Message.later_marked (at_ : Instant) (m : Message) : m.Later (m.marked at_) := by
  refine ⟨sameEvent_marked at_ m, ?_, fun t ht => ?_⟩
  · unfold marked
    split <;> exact UInt32.le_refl _
  · -- the row is processed already, so the mark passes it over
    have hdone : m.isPending = false := by rw [isPending, ht]; rfl
    rw [marked, hdone, if_neg Bool.false_ne_true, ht]

/-- Where the counter is not full, a failed attempt makes it larger. -/
theorem Message.later_failed {m : Message} (room : m.retryCount.toNat + 1 < UInt32.size)
    (error : String) : m.Later (m.failed error) := by
  refine ⟨sameEvent_failed error m, ?_, fun t ht => ht⟩
  rw [UInt32.le_iff_toNat_le, retryCount_failed room]
  exact Nat.le_succ _

namespace Store

/-- No row disappears.  Outbox rows stay in their places and become later states of themselves, and
ledger rows stay as they are. -/
structure Preserves (s s' : Store) : Prop where
  outbox : ∀ (i : Nat) (r : Nat × Message), s.outbox[i]? = some r →
    ∃ r' : Nat × Message, s'.outbox[i]? = some r' ∧ r'.1 = r.1 ∧ r.2.Later r'.2
  entities : ∀ k, s.entities.contains k = true → s'.entities.contains k = true
  ledger : ∀ k r, s.ledger.find? k = some r → s'.ledger.find? k = some r

theorem Preserves.refl (s : Store) : s.Preserves s where
  outbox := fun _ r hr => ⟨r, hr, rfl, .refl r.2⟩
  entities := fun _ h => h
  ledger := fun _ _ h => h

theorem Preserves.trans {a b c : Store} (h : a.Preserves b) (h' : b.Preserves c) :
    a.Preserves c where
  outbox := fun i r hr => by
    obtain ⟨r₁, hr₁, hnumber₁, hlater₁⟩ := h.outbox i r hr
    obtain ⟨r₂, hr₂, hnumber₂, hlater₂⟩ := h'.outbox i r₁ hr₁
    exact ⟨r₂, hr₂, hnumber₂.trans hnumber₁, hlater₁.trans hlater₂⟩
  entities := fun k hk => h'.entities k (h.entities k hk)
  ledger := fun k r hr => h'.ledger k r (h.ledger k r hr)

/-- From a well-kept store, the step leads to one that preserves the rows. -/
def Advances (s s' : Store) : Prop :=
  s.WellKept → s'.WellKept ∧ s.Preserves s'

theorem Advances.refl (s : Store) : s.Advances s := fun h => ⟨h, .refl s⟩

theorem Advances.trans (a b c : Store) (h : a.Advances b) (h' : b.Advances c) : a.Advances c := by
  intro ha
  obtain ⟨hb, hab⟩ := h ha
  obtain ⟨hc, hbc⟩ := h' hb
  exact ⟨hc, hab.trans hbc⟩

/-! ## §3 Single steps -/

/-- Faults are no rows: arming or meeting one advances nothing. -/
theorem advances_of_sameTables {s s' : Store} (h : s.SameTables s') : s.Advances s' := by
  intro hs
  rw [h.eq_with_faults]
  -- the fields speak of tables only
  exact ⟨⟨hs.sound.congr rfl rfl, hs.entities, hs.versions, hs.ledger⟩,
    ⟨(Preserves.refl s).outbox, fun _ h => h, fun _ _ h => h⟩⟩

/-- Filing the row that a change leaves. -/
theorem advances_put (s : Store) {c : Change} {v : UInt64} (hv : c.kind.nextVersion? = some v) :
    s.Advances { s with entities := s.entities.put c.key (rowOf c v) } := by
  intro hs
  refine ⟨⟨hs.sound.congr rfl rfl, hs.entities.put (rowOf c v), ?_, hs.ledger⟩,
    ⟨(Preserves.refl s).outbox, fun k hk => ?_, fun _ _ h => h⟩⟩
  · -- the version of a written row is one after another version
    intro p hp
    rcases Table.mem_putRow hp with rfl | hp
    · show 1 ≤ v
      have hnext := toNat_nextVersion hv
      rw [UInt64.le_iff_toNat_le, hnext]
      exact Nat.succ_le_succ (Nat.zero_le _)
    · exact hs.versions p hp
  · exact (Table.contains_put s.entities c.key (rowOf c v) k).mpr (.inr hk)

/-- Messages become rows behind the others. -/
theorem insertMessages_advances (s : Store) (ms : List Message) :
    s.Advances (s.insertMessages ms).2 := by
  intro hs
  have hsound := hs.sound.insertMessages ms
  rw [insertMessages_eq] at hsound ⊢
  refine ⟨⟨hsound, hs.entities, hs.versions, hs.ledger⟩, ⟨fun i r hr => ?_, fun _ h => h,
    fun _ _ h => h⟩⟩
  -- rows are added behind those that are there
  obtain ⟨hi, -⟩ := List.getElem?_eq_some_iff.mp hr
  refine ⟨r, ?_, rfl, .refl r.2⟩
  show (s.outbox ++ _)[i]? = some r
  rw [List.getElem?_append_left hi, hr]

/-- A commit keeps all rows, also one that ends early after some changes are written. -/
theorem commit_advances (cs : ChangeSet) : (commit cs).Within Advances := by
  apply commit_within_of Advances.refl Advances.trans
  case put => exact fun s c v hv => advances_put s hv
  case fault => exact fun s faults => advances_of_sameTables ⟨rfl, rfl, rfl, rfl⟩
  case insert => exact insertMessages_advances

/-- Changing a stored row to a later state of it. -/
theorem advances_change {s : Store} {m : Message} (hm : m ∈ s.messages) {f : Message → Message}
    (hid : ∀ m, (f m).id = m.id) (hlater : m.Later (f m)) : s.Advances (s.change m.id f) := by
  intro hs
  refine ⟨⟨hs.sound.change m.id hid, hs.entities, hs.versions, hs.ledger⟩,
    ⟨fun i r hr => ?_, fun _ h => h, fun _ _ h => h⟩⟩
  have houtbox : (s.change m.id f).outbox =
      s.outbox.map fun r => if r.2.id = m.id then (r.1, f r.2) else r :=
    changeMessage_eq_map m.id f hs.sound.ids_nodup
  rw [houtbox, List.getElem?_map, hr, Option.map_some]
  refine ⟨_, rfl, ?_⟩
  by_cases hrm : r.2.id = m.id
  · -- only the row itself has its identifier
    have hmem : r.2 ∈ s.messages := List.mem_map_of_mem (List.mem_of_getElem? hr)
    obtain rfl := hs.sound.eq_of_id_eq hmem hm hrm
    rw [if_pos hrm]
    exact ⟨rfl, hlater⟩
  · rw [if_neg hrm]
    exact ⟨rfl, .refl r.2⟩

/-- A fetch reads and writes no row. -/
theorem fetch_advances (limit : UInt32) (maxAttempts : Option UInt32) :
    (fetch limit maxAttempts).Within Advances := by
  intro s
  rw [fetch_run]
  cases s.faults.fetch with
  | some f => exact advances_of_sameTables ⟨rfl, rfl, rfl, rfl⟩
  | none => exact Advances.refl s

/-- A mark moves one row to a later state, or none. -/
theorem markProcessed_advances (id : Uuid) (at_ : Instant) :
    (markProcessed id at_).Within Advances := by
  intro s
  rw [markProcessed, Action.run_bind_of_ok (Action.run_ask _ s)]
  cases s.faults.markProcessed with
  | some f => exact advances_of_sameTables ⟨rfl, rfl, rfl, rfl⟩
  | none =>
    cases hfind : s.find? id with
    | none => exact Advances.refl s
    | some m =>
      obtain ⟨hm, rfl⟩ := find?_some hfind
      exact advances_change hm (fun m => (Message.sameEvent_marked at_ m).id)
        (Message.later_marked at_ m)

/-- A failure moves one row to a later state, or none. -/
theorem recordFailure_advances (id : Uuid) (error : String) :
    (recordFailure id error).Within Advances := by
  intro s hs
  cases hfind : s.find? id with
  | none =>
    rw [recordFailure, Action.run_bind_of_ok (Action.run_ask _ s), hfind]
    exact Advances.refl s hs
  | some m =>
    obtain ⟨hm, rfl⟩ := find?_some hfind
    by_cases room : m.retryCount.toNat + 1 < UInt32.size
    · rw [recordFailure_run hs.sound hm error room]
      exact advances_change hm (fun m => (Message.sameEvent_failed error m).id)
        (Message.later_failed room error) hs
    · -- a full counter ends the run and changes nothing
      rw [recordFailure_full hs.sound hm error room]
      exact Advances.refl s hs

/-- Recording a consumer never replaces a row. -/
theorem recordConsumer_advances (id : Uuid) (consumer : String) (now : Instant) :
    (recordConsumer id consumer now).Within Advances := by
  intro s hs
  rw [recordConsumer, Action.run_step]
  split
  · exact Advances.refl s hs
  · next hnew =>
    refine ⟨⟨hs.sound.congr rfl rfl, hs.entities, hs.versions, hs.ledger.put ⟨id, consumer, now⟩⟩,
      ⟨(Preserves.refl s).outbox, fun _ h => h, fun k r hr => ?_⟩⟩
    have hother : k ≠ (id, consumer) := by
      rintro rfl
      -- a row under the key would have been found before
      apply hnew
      rw [hasConsumer, Table.contains, hr]
      rfl
    rw [Table.find?_put, if_neg hother]
    exact hr

/-! ## §4 Operations -/

/-- What can be asked of a store, and the faults that can be armed. -/
inductive Operation where
  | commit (cs : ChangeSet)
  | fetch (limit : UInt32) (maxAttempts : Option UInt32)
  | markProcessed (id : Uuid) (at_ : Instant)
  | recordFailure (id : Uuid) (error : String)
  | find (id : Uuid)
  | contains (id : Uuid) (consumer : String)
  | record (id : Uuid) (consumer : String) (now : Instant)
  | failNextCommit (e : StoreError)
  | failNextFetch (f : Failure)
  | failNextMark (f : Failure)

/-- The store after an operation, whatever it answers and also when it ends early. -/
def perform : Operation → Store → Store
  | .commit cs, s => ((commit cs).run s).2
  | .fetch limit maxAttempts, s => ((fetch limit maxAttempts).run s).2
  | .markProcessed id at_, s => ((markProcessed id at_).run s).2
  | .recordFailure id error, s => ((recordFailure id error).run s).2
  | .find id, s => ((Action.ask fun s => s.find? id).run s).2
  | .contains id consumer, s => ((Action.ask fun s => s.hasConsumer id consumer).run s).2
  | .record id consumer now, s => ((recordConsumer id consumer now).run s).2
  | .failNextCommit e, s => s.failNextCommit e
  | .failNextFetch f, s => s.failNextFetch f
  | .failNextMark f, s => s.failNextMark f

/-- The store after operations, one after the other. -/
def performAll (ops : List Operation) (s : Store) : Store :=
  ops.foldl (fun s op => perform op s) s

/-- Every operation advances, whatever it answers. -/
theorem perform_advances (op : Operation) (s : Store) : s.Advances (perform op s) := by
  cases op with
  | commit cs => exact commit_advances cs s
  | fetch limit maxAttempts => exact fetch_advances limit maxAttempts s
  | markProcessed id at_ => exact markProcessed_advances id at_ s
  | recordFailure id error => exact recordFailure_advances id error s
  | find id => exact Advances.refl s
  | contains id consumer => exact Advances.refl s
  | record id consumer now => exact recordConsumer_advances id consumer now s
  | failNextCommit e => exact advances_of_sameTables ⟨rfl, rfl, rfl, rfl⟩
  | failNextFetch f => exact advances_of_sameTables ⟨rfl, rfl, rfl, rfl⟩
  | failNextMark f => exact advances_of_sameTables ⟨rfl, rfl, rfl, rfl⟩

theorem performAll_advances (ops : List Operation) (s : Store) : s.Advances (performAll ops s) := by
  induction ops generalizing s with
  | nil => exact Advances.refl s
  | cons op ops ih => exact Advances.trans _ _ _ (perform_advances op s) (ih (perform op s))

/-- A processed row is in no answer of a fetch. -/
theorem notMem_fetched {s : Store} (hs : s.Sound) {m : Message} (hm : m ∈ s.messages)
    (done : m.isPending = false) {limit : UInt32} {maxAttempts : Option UInt32}
    {rows : List Message} (h : ((fetch limit maxAttempts).run s).1 = .ok (.ok rows)) :
    m.id ∉ rows.map Message.id := by
  rw [fetch_run] at h
  cases hfault : s.faults.fetch with
  | some f => simp [hfault] at h
  | none =>
    simp only [hfault, Except.ok.injEq] at h
    subst h
    intro hid
    obtain ⟨m', hm', hid⟩ := List.mem_map.mp hid
    obtain ⟨hstored, hpending, -⟩ := mem_eligible_iff.mp (List.mem_of_mem_take hm')
    -- the fetched row with this identifier would be the processed one
    obtain rfl := hs.eq_of_id_eq hstored hm hid
    rw [done] at hpending
    cases hpending

/-- A store, and the same store after more operations. -/
structure Endures (s s' : Store) : Prop where
  wellKept : s.WellKept
  preserves : s.Preserves s'
  /-- What is processed is not fetched later. -/
  unfetched : ∀ m ∈ s.messages, m.isPending = false → ∀ limit maxAttempts rows,
    ((fetch limit maxAttempts).run s').1 = .ok (.ok rows) → m.id ∉ rows.map Message.id

/-- Whatever is done to a store that was empty, it is well kept, and whatever is done to it later,
its rows endure. -/
theorem rows_endure (before after : List Operation) :
    Endures (performAll before {}) (performAll (before ++ after) {}) := by
  have hbefore := (performAll_advances before {} wellKept_empty).1
  have hlater : performAll (before ++ after) {} = performAll after (performAll before {}) :=
    List.foldl_append
  obtain ⟨hafter, hpreserves⟩ := performAll_advances after _ hbefore
  rw [hlater]
  refine ⟨hbefore, hpreserves, fun m hm done limit maxAttempts rows hfetch => ?_⟩
  -- the row is found in its place, with its mark
  obtain ⟨r, hr, rfl⟩ := List.mem_map.mp hm
  obtain ⟨i, hi⟩ := List.mem_iff_getElem?.mp hr
  obtain ⟨r', hi', -, hlate⟩ := hpreserves.outbox i r hi
  obtain ⟨t, ht⟩ : ∃ t, r.2.processedAt = some t := by
    rw [← Option.isSome_iff_exists]
    simpa [Message.isPending] using done
  have hdone : r'.2.isPending = false := by rw [Message.isPending, hlate.processed t ht]; rfl
  rw [← hlate.sameEvent.id]
  exact notMem_fetched hafter.sound (List.mem_map_of_mem (List.mem_of_getElem? hi')) hdone hfetch

end Store

end EventOutbox
