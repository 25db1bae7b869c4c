import EventOutbox.Proofs.ActionLogic
import EventOutbox.Store.Memory
import Mathlib.Data.List.Nodup

/-!
# The rows of the outbox

What the operations of a store do to its outbox rows.  A sound store holds no identifier twice and
numbers its rows in increasing order; there, changing the row of an identifier is a map over the
rows, and a look-up finds a row exactly when the row is stored.

## Main statements

- `Store.insertMessages_eq`: inserting adds the rows whose identifiers are new, at the end.
- `Store.changeMessage_eq_map`: changing a row leaves every other row as it is.
- `Store.mem_eligible_iff`: which rows are fetched.
-/

namespace EventOutbox

/-- A row as it is inserted: nothing has been delivered or has failed. -/
structure Message.Untouched (m : Message) : Prop where
  pending : m.processedAt = none
  no_retry : m.retryCount = 0
  no_error : m.lastError = none

/-- The row after one more failed attempt, when the counter is not full. -/
def Message.failed (m : Message) (error : String) : Message :=
  { m with retryCount := m.retryCount + 1, lastError := some error }

theorem Message.retryCount_failed {m : Message} (room : m.retryCount.toNat + 1 < UInt32.size)
    (error : String) : (m.failed error).retryCount.toNat = m.retryCount.toNat + 1 := by
  rw [failed, UInt32.toNat_add]
  -- the counter does not overflow
  exact Nat.mod_eq_of_lt room

/-- Two states of one row: they agree in everything but the delivery state. -/
structure Message.SameEvent (m m' : Message) : Prop where
  id : m'.id = m.id
  eventType : m'.eventType = m.eventType
  payload : m'.payload = m.payload
  aggregateType : m'.aggregateType = m.aggregateType
  aggregateId : m'.aggregateId = m.aggregateId
  transactionId : m'.transactionId = m.transactionId
  createdAt : m'.createdAt = m.createdAt

theorem Message.SameEvent.refl (m : Message) : m.SameEvent m := ⟨rfl, rfl, rfl, rfl, rfl, rfl, rfl⟩

theorem Message.SameEvent.trans {a b c : Message} (h : a.SameEvent b) (h' : b.SameEvent c) :
    a.SameEvent c where
  id := h'.id.trans h.id
  eventType := h'.eventType.trans h.eventType
  payload := h'.payload.trans h.payload
  aggregateType := h'.aggregateType.trans h.aggregateType
  aggregateId := h'.aggregateId.trans h.aggregateId
  transactionId := h'.transactionId.trans h.transactionId
  createdAt := h'.createdAt.trans h.createdAt

/-- Where no identifier occurs twice, the rows behind have other identifiers than the rows
before. -/
theorem Message.id_notMem_of_nodup {before after : List Message}
    (h : ((before ++ after).map Message.id).Nodup) {m : Message} (hm : m ∈ after) :
    m.id ∉ before.map Message.id := by
  rw [List.map_append] at h
  exact fun hbefore => List.disjoint_of_nodup_append h hbefore (List.mem_map_of_mem hm)

namespace Store

/-! ## §1 Identifiers and numbers -/

/-- The identifiers of the outbox rows, in order. -/
def ids (s : Store) : List Uuid :=
  s.outbox.map (·.2.id)

/-- Identifiers are distinct, and sequence numbers grow along the outbox and stay below the next. -/
structure Sound (s : Store) : Prop where
  ids_nodup : s.ids.Nodup
  numbers_increase : (s.outbox.map Prod.fst).Pairwise (· < ·)
  numbers_below : ∀ r ∈ s.outbox, r.1 < s.nextSeq

theorem sound_empty (f : Faults) : ({ faults := f } : Store).Sound :=
  ⟨List.nodup_nil, List.Pairwise.nil, by simp⟩

/-- Identifiers are those of the rows, in their order. -/
theorem ids_eq_map_messages (s : Store) : s.ids = s.messages.map Message.id := by
  simp only [ids, messages, List.map_map, Function.comp_def]

theorem mem_ids_iff {s : Store} {id : Uuid} : id ∈ s.ids ↔ ∃ m ∈ s.messages, m.id = id := by
  rw [ids_eq_map_messages, List.mem_map]

/-- Rows of a sound store are told apart by their identifiers. -/
theorem Sound.eq_of_id_eq {s : Store} (hs : s.Sound) {m m' : Message} (hm : m ∈ s.messages)
    (hm' : m' ∈ s.messages) (h : m.id = m'.id) : m = m' := by
  have hnodup : (s.messages.map Message.id).Nodup := ids_eq_map_messages s ▸ hs.ids_nodup
  exact List.inj_on_of_nodup_map hnodup hm hm' h

/-- Only the outbox and the next number count for soundness. -/
theorem Sound.congr {s s' : Store} (hs : s.Sound) (hout : s'.outbox = s.outbox)
    (hseq : s'.nextSeq = s.nextSeq) : s'.Sound := by
  obtain ⟨hids, hinc, hbelow⟩ := hs
  constructor
  · simpa only [ids, hout] using hids
  · simpa only [hout] using hinc
  · simpa only [hout, hseq] using hbelow

/-! ## §2 Inserting rows -/

/-- The messages whose identifiers are neither known nor taken by an earlier one. -/
def novel (known : List Uuid) : List Message → List Message
  | [] => []
  | m :: ms => if m.id ∈ known then novel known ms else m :: novel (known ++ [m.id]) ms

/-- Messages with consecutive numbers. -/
def numbered (n : Nat) (ms : List Message) : List (Nat × Message) :=
  (ms.zipIdx n).map Prod.swap

/-- The store with rows added at the end. -/
def addRows (s : Store) (ms : List Message) : Store :=
  { s with outbox := s.outbox ++ numbered s.nextSeq ms, nextSeq := s.nextSeq + ms.length }

@[simp] theorem numbered_nil (n : Nat) : numbered n [] = [] := rfl

@[simp] theorem numbered_cons (n : Nat) (m : Message) (ms : List Message) :
    numbered n (m :: ms) = (n, m) :: numbered (n + 1) ms := rfl

@[simp] theorem map_snd_numbered (n : Nat) (ms : List Message) :
    (numbered n ms).map Prod.snd = ms := by
  induction ms generalizing n with
  | nil => rfl
  | cons m ms ih => rw [numbered_cons, List.map_cons, ih]

/-- New numbers are those that follow, one for each row. -/
theorem map_fst_numbered (n : Nat) (ms : List Message) :
    (numbered n ms).map Prod.fst = List.range' n ms.length := by
  induction ms generalizing n with
  | nil => rfl
  | cons m ms ih => rw [numbered_cons, List.map_cons, ih, List.length_cons, List.range'_succ]

/-- Added rows come last. -/
@[simp] theorem messages_addRows (s : Store) (ms : List Message) :
    (s.addRows ms).messages = s.messages ++ ms := by
  simp only [addRows, messages, List.map_append, map_snd_numbered]

@[simp] theorem ids_addRows (s : Store) (ms : List Message) :
    (s.addRows ms).ids = s.ids ++ ms.map Message.id := by
  rw [ids_eq_map_messages, ids_eq_map_messages, messages_addRows, List.map_append]

theorem addRows_nil (s : Store) : s.addRows [] = s := by
  simp [addRows]

theorem hasMessage_iff (s : Store) (id : Uuid) : s.hasMessage id = true ↔ id ∈ s.ids := by
  simp [hasMessage, ids]

/-- Inserting adds the rows with new identifiers at the end and counts them. -/
theorem insertMessages_eq (s : Store) (ms : List Message) :
    s.insertMessages ms = ((novel s.ids ms).length, s.addRows (novel s.ids ms)) := by
  induction ms generalizing s with
  | nil => simp [insertMessages, novel, addRows_nil]
  | cons m ms ih =>
    by_cases hm : m.id ∈ s.ids
    · -- the message is passed over
      have hhas : s.hasMessage m.id = true := (hasMessage_iff s m.id).mpr hm
      simp only [insertMessages, insertMessage, hhas, if_true, ih, novel, hm, Nat.zero_add]
    · -- the message gets the next row, and the others come to a store that knows it
      have hhas : s.hasMessage m.id = false := by
        rw [Bool.eq_false_iff]
        exact fun h => hm ((hasMessage_iff s m.id).mp h)
      have hstep : ({ s with outbox := s.outbox ++ [(s.nextSeq, m)], nextSeq := s.nextSeq + 1 } :
          Store) = s.addRows [m] := rfl
      have hids : (s.addRows [m]).ids = s.ids ++ [m.id] := ids_addRows s [m]
      simp only [insertMessages, insertMessage, hhas, Bool.false_eq_true, if_false, hstep, ih, hids,
        novel, hm, List.length_cons]
      simp only [addRows, numbered_cons, numbered_nil, List.append_assoc, List.cons_append,
        List.nil_append, List.length_cons, List.length_nil, Nat.zero_add, Prod.mk.injEq]
      refine ⟨Nat.add_comm _ _, ?_⟩
      rw [Nat.add_assoc, Nat.add_comm 1]

/-- What is inserted was asked for and was not known. -/
theorem novel_subset {known : List Uuid} {ms : List Message} {m : Message}
    (h : m ∈ novel known ms) : m ∈ ms ∧ m.id ∉ known := by
  induction ms generalizing known with
  | nil => simp [novel] at h
  -- the set of known identifiers grows with every row that is inserted, so the induction is for any
  | cons a ms ih =>
    by_cases ha : a.id ∈ known
    · simp only [novel, ha, if_true] at h
      exact ⟨List.mem_cons_of_mem _ (ih h).1, (ih h).2⟩
    · simp only [novel, ha, if_false, List.mem_cons] at h
      rcases h with rfl | h
      · exact ⟨List.mem_cons_self, ha⟩
      · have hm := ih h
        exact ⟨List.mem_cons_of_mem _ hm.1, fun hk => hm.2 (List.mem_append_left _ hk)⟩

/-- No identifier is inserted twice, even when a message is given twice. -/
theorem nodup_novel (known : List Uuid) (ms : List Message) :
    ((novel known ms).map Message.id).Nodup := by
  induction ms generalizing known with
  | nil => exact List.nodup_nil
  | cons a ms ih =>
    by_cases ha : a.id ∈ known
    · simpa only [novel, ha, if_true] using ih known
    · simp only [novel, ha, if_false, List.map_cons, List.nodup_cons]
      refine ⟨fun hmem => ?_, ih _⟩
      obtain ⟨m, hm, hid⟩ := List.mem_map.mp hmem
      -- what follows is new beside all that is known by then, this message included
      exact (novel_subset hm).2 (hid ▸ List.mem_append_right _ List.mem_cons_self)

/-- Messages with new and distinct identifiers are all inserted. -/
theorem novel_eq_self {known : List Uuid} {ms : List Message}
    (h : (known ++ ms.map Message.id).Nodup) : novel known ms = ms := by
  induction ms generalizing known with
  | nil => rfl
  | cons a ms ih =>
    have hassoc : ((known ++ [a.id]) ++ ms.map Message.id).Nodup := by
      simpa only [List.append_assoc, List.cons_append, List.nil_append, List.map_cons] using h
    have ha : a.id ∉ known := fun hk =>
      (List.nodup_append.mp h).2.2 _ hk a.id (by simp) rfl
    simp only [novel, ha, if_false, ih hassoc]

/-- Rows with new identifiers leave a sound store sound. -/
theorem Sound.addRows {s : Store} (hs : s.Sound) {ms : List Message}
    (hnew : (s.ids ++ ms.map Message.id).Nodup) : (s.addRows ms).Sound := by
  constructor
  · rwa [ids_addRows]
  · -- the new numbers begin where the old ones end
    simp only [Store.addRows, List.map_append, map_fst_numbered]
    rw [List.pairwise_append]
    refine ⟨hs.numbers_increase, List.pairwise_lt_range', fun a ha b hb => ?_⟩
    obtain ⟨r, hr, rfl⟩ := List.mem_map.mp ha
    exact Nat.lt_of_lt_of_le (hs.numbers_below r hr) (List.mem_range'_1.mp hb).1
  · intro r hr
    simp only [Store.addRows, List.mem_append] at hr ⊢
    rcases hr with hr | hr
    · exact Nat.lt_of_lt_of_le (hs.numbers_below r hr) (Nat.le_add_right _ _)
    · have hmem : r.1 ∈ (numbered s.nextSeq ms).map Prod.fst := List.mem_map_of_mem hr
      rw [map_fst_numbered] at hmem
      exact (List.mem_range'_1.mp hmem).2

/-- Inserting leaves a sound store sound, whatever it is given. -/
theorem Sound.insertMessages {s : Store} (hs : s.Sound) (ms : List Message) :
    (s.insertMessages ms).2.Sound := by
  rw [insertMessages_eq]
  refine hs.addRows (List.nodup_append.mpr ⟨hs.ids_nodup, nodup_novel _ _, ?_⟩)
  intro a ha b hb hab
  obtain ⟨m, hm, rfl⟩ := List.mem_map.mp hb
  exact (novel_subset hm).2 (hab ▸ ha)

/-! ## §3 Changing a row -/

/-- With distinct identifiers, changing a row is a map that leaves every other row as it is. -/
theorem changeMessage_eq_map {rows : List (Nat × Message)} (id : Uuid) (f : Message → Message)
    (h : (rows.map (·.2.id)).Nodup) :
    changeMessage id f rows = rows.map fun r => if r.2.id = id then (r.1, f r.2) else r := by
  induction rows with
  | nil => rfl
  | cons r rows ih =>
    obtain ⟨n, m⟩ := r
    rw [List.map_cons, List.nodup_cons] at h
    by_cases hm : m.id = id
    · -- the walk stops here, and the map finds nothing to change in the rest
      have hrest : ∀ r ∈ rows, r.2.id ≠ id := by
        rintro r hr rfl
        exact h.1 (hm ▸ List.mem_map_of_mem hr)
      have hsame : rows.map (fun r => if r.2.id = id then (r.1, f r.2) else r) = rows := by
        conv_rhs => rw [← List.map_id rows]
        exact List.map_congr_left fun r hr => by simp [hrest r hr]
      simp only [changeMessage, hm, if_true, List.map_cons, hsame]
    · simp only [changeMessage, hm, if_false, List.map_cons, ih h.2]

/-- The store with the row of an identifier changed. -/
def change (id : Uuid) (f : Message → Message) (s : Store) : Store :=
  { s with outbox := changeMessage id f s.outbox }

/-- A change reaches the rows with the identifier, of which a sound store has one at most. -/
theorem messages_change {s : Store} (hs : s.Sound) (id : Uuid) (f : Message → Message) :
    (s.change id f).messages = s.messages.map fun m => if m.id = id then f m else m := by
  simp only [change, messages, changeMessage_eq_map id f hs.ids_nodup, List.map_map]
  refine List.map_congr_left fun r _ => ?_
  simp only [Function.comp_apply]
  split <;> rfl

/-- A change that keeps identifiers. -/
theorem ids_change {s : Store} (hs : s.Sound) (id : Uuid) {f : Message → Message}
    (hf : ∀ m, (f m).id = m.id) : (s.change id f).ids = s.ids := by
  rw [ids_eq_map_messages, ids_eq_map_messages, messages_change hs, List.map_map]
  refine List.map_congr_left fun m _ => ?_
  simp only [Function.comp_apply]
  split
  · exact hf m
  · rfl

/-- A change that keeps identifiers leaves a sound store sound: no number moves. -/
theorem Sound.change {s : Store} (hs : s.Sound) (id : Uuid) {f : Message → Message}
    (hf : ∀ m, (f m).id = m.id) : (s.change id f).Sound := by
  have hnumbers : (s.change id f).outbox.map Prod.fst = s.outbox.map Prod.fst := by
    simp only [Store.change, changeMessage_eq_map id f hs.ids_nodup, List.map_map]
    refine List.map_congr_left fun r _ => ?_
    simp only [Function.comp_apply]
    split <;> rfl
  constructor
  · rw [ids_change hs id hf]
    exact hs.ids_nodup
  · rw [hnumbers]
    exact hs.numbers_increase
  · intro r hr
    have hmem : r.1 ∈ (s.change id f).outbox.map Prod.fst := List.mem_map_of_mem hr
    rw [hnumbers] at hmem
    obtain ⟨r', hr', heq⟩ := List.mem_map.mp hmem
    exact heq ▸ hs.numbers_below r' hr'

/-- A row of the changed store is the changed row or another row of the store. -/
theorem mem_messages_change {s : Store} (hs : s.Sound) {m : Message} (hm : m ∈ s.messages)
    (f : Message → Message) {m' : Message} :
    m' ∈ (s.change m.id f).messages ↔ m' = f m ∨ (m' ∈ s.messages ∧ m'.id ≠ m.id) := by
  rw [messages_change hs, List.mem_map]
  constructor
  · rintro ⟨a, ha, rfl⟩
    by_cases hid : a.id = m.id
    · left
      rw [if_pos hid, hs.eq_of_id_eq ha hm hid]
    · right
      rw [if_neg hid]
      exact ⟨ha, hid⟩
  · rintro (rfl | ⟨hm', hid⟩)
    · exact ⟨m, hm, if_pos rfl⟩
    · exact ⟨m', hm', if_neg hid⟩

/-- A stored row is found by its identifier. -/
theorem find?_of_mem {s : Store} (hs : s.Sound) {m : Message} (hm : m ∈ s.messages) :
    s.find? m.id = some m := by
  obtain ⟨r, hr, hrm⟩ := List.mem_map.mp hm
  have hsome : (s.outbox.find? fun r => r.2.id = m.id).isSome := by
    rw [List.find?_isSome]
    exact ⟨r, hr, by simp [hrm]⟩
  -- whatever is found has the identifier, and no two rows share one
  obtain ⟨r', hr'⟩ := Option.isSome_iff_exists.mp hsome
  have hid : r'.2.id = m.id := by simpa using List.find?_some hr'
  have hmem : r'.2 ∈ s.messages := List.mem_map_of_mem (List.mem_of_find?_eq_some hr')
  rw [find?, hr', Option.map_some, hs.eq_of_id_eq hmem hm hid]

/-- What is found is stored, with the identifier that was looked for. -/
theorem find?_some {s : Store} {id : Uuid} {m : Message} (h : s.find? id = some m) :
    m ∈ s.messages ∧ m.id = id := by
  obtain ⟨r, hr, rfl⟩ := Option.map_eq_some_iff.mp h
  exact ⟨List.mem_map_of_mem (List.mem_of_find?_eq_some hr), by simpa using List.find?_some hr⟩

/-! ## §4 Fetching -/

/-- The eligible rows are the pending ones with attempts left. -/
theorem mem_eligible_iff {s : Store} {maxAttempts : Option UInt32} {m : Message} :
    m ∈ s.eligible maxAttempts ↔
      m ∈ s.messages ∧ m.isPending = true ∧ m.attemptsExhausted maxAttempts = false := by
  simp only [eligible, messages, List.mem_map, List.mem_mergeSort, List.mem_filter,
    Bool.and_eq_true, Bool.not_eq_true']
  constructor
  · rintro ⟨r, ⟨hr, hp⟩, rfl⟩
    exact ⟨⟨r, hr, rfl⟩, hp⟩
  · rintro ⟨⟨r, hr, rfl⟩, hp⟩
    exact ⟨r, ⟨hr, hp⟩, rfl⟩

/-- No identifier occurs twice among the eligible rows. -/
theorem Sound.nodup_eligible {s : Store} (hs : s.Sound) (maxAttempts : Option UInt32) :
    ((s.eligible maxAttempts).map Message.id).Nodup := by
  rw [eligible, List.map_map]
  -- sorting permutes the rows, and filtering leaves some out
  have hperm := List.mergeSort_perm
    (s.outbox.filter fun r => r.2.isPending && !r.2.attemptsExhausted maxAttempts) fetchedBefore
  exact (hperm.map _).nodup_iff.mpr (hs.ids_nodup.sublist (List.filter_sublist.map _))

end Store

end EventOutbox
