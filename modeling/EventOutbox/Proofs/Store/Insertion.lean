import EventOutbox.Proofs.Store.Order
import EventOutbox.Proofs.Store.Reachable
import EventOutbox.Shop
import Mathlib.Data.Finset.Card

/-!
# Inserting messages again

An outbox takes each identifier once.  The first message that brings a new identifier gets the next
row, and every later one with the same identifier is passed over, whether it stands in the same
list, comes with another commit, or finds the row delivered already.  So lists of messages may be
cut and repeated at will.

## Main statements

- `Store.mem_novel_iff`: which messages get a row.
- `Store.insertMessages_append`: one list after the other is both lists at once.
- `Store.filter_eligible_addRows`: new rows do not move the old ones in the order of delivery.
- `Store.message_commits_compose`: commits of messages.
-/

namespace EventOutbox.Store

/-! ## §1 Which messages get a row -/

/-- A message gets a row when its identifier is new and it is the first of the list with it. -/
theorem mem_novel_iff {known : List Uuid} {ms : List Message} {m : Message} :
    m ∈ novel known ms ↔ m.id ∉ known ∧ ms.find? (fun m' => m'.id = m.id) = some m := by
  induction ms generalizing known with
  | nil => simp [novel]
  | cons a ms ih =>
    rw [novel, List.find?_cons]
    by_cases ha : a.id ∈ known
    · -- the first message is passed over, and nothing new has its identifier
      rw [if_pos ha, ih]
      refine and_congr_right fun hm => ?_
      have hother : a.id ≠ m.id := fun heq => hm (heq ▸ ha)
      simp only [hother, decide_false]
    · rw [if_neg ha, List.mem_cons, ih]
      by_cases hid : a.id = m.id
      · -- from here on the identifier is known, so that only the first message remains
        simp only [hid, decide_true, List.mem_append, List.mem_singleton, or_true, not_true,
          false_and, or_false, Option.some.injEq]
        exact ⟨fun hma => ⟨hid ▸ ha, hma.symm⟩, fun h => h.2.symm⟩
      -- another identifier: knowing it makes no difference to this message
      · have hne : m ≠ a := fun hma => hid (hma ▸ rfl)
        simp only [hne, false_or, List.mem_append, List.mem_singleton, Ne.symm hid, or_false, hid,
          decide_false]

/-- Messages that get a row stand in their order. -/
theorem novel_sublist (known : List Uuid) (ms : List Message) : (novel known ms).Sublist ms := by
  induction ms generalizing known with
  | nil => exact List.Sublist.slnil
  | cons a ms ih =>
    rw [novel]
    split
    · exact (ih known).cons a
    · exact (ih _).cons_cons a

/-- As many messages get a row as there are new identifiers among them. -/
theorem length_novel (known : List Uuid) (ms : List Message) :
    (novel known ms).length = ((ms.map Message.id).toFinset \ known.toFinset).card := by
  have hids : ((novel known ms).map Message.id).toFinset =
      (ms.map Message.id).toFinset \ known.toFinset := by
    ext id
    rw [List.mem_toFinset, Finset.mem_sdiff, List.mem_toFinset, List.mem_toFinset]
    constructor
    · intro h
      obtain ⟨m, hm, rfl⟩ := List.mem_map.mp h
      exact ⟨List.mem_map_of_mem (novel_subset hm).1, (novel_subset hm).2⟩
    · rintro ⟨hmem, hnew⟩
      -- the first message with the identifier gets a row
      obtain ⟨m, hm, rfl⟩ := List.mem_map.mp hmem
      have hsome : (ms.find? fun m' => m'.id = m.id).isSome :=
        List.find?_isSome.mpr ⟨m, hm, decide_eq_true rfl⟩
      obtain ⟨first, hfirst⟩ := Option.isSome_iff_exists.mp hsome
      have hid : first.id = m.id := by simpa using List.find?_some hfirst
      rw [← hid] at hfirst hnew ⊢
      exact List.mem_map_of_mem (mem_novel_iff.mpr ⟨hnew, hfirst⟩)
  rw [← hids, List.toFinset_card_of_nodup (nodup_novel known ms), List.length_map]

/-- Known messages get no row. -/
theorem novel_of_known {known : List Uuid} {ms : List Message} (h : ∀ m ∈ ms, m.id ∈ known) :
    novel known ms = [] := by
  rw [List.eq_nil_iff_forall_not_mem]
  exact fun m hm => (novel_subset hm).2 (h m (novel_subset hm).1)

/-! ## §2 Lists in a row -/

/-- Inserting one list after the other is inserting both at once. -/
theorem insertMessages_append (s : Store) (a b : List Message) :
    s.insertMessages (a ++ b) =
      ((s.insertMessages a).1 + ((s.insertMessages a).2.insertMessages b).1,
        ((s.insertMessages a).2.insertMessages b).2) := by
  induction a generalizing s with
  | nil => simp only [List.nil_append, insertMessages, Nat.zero_add]
  | cons m a ih => simp only [List.cons_append, insertMessages, ih, Nat.add_assoc]

/-- Inserting what is stored changes nothing. -/
theorem insertMessages_of_stored {s : Store} {ms : List Message} (h : ∀ m ∈ ms, m.id ∈ s.ids) :
    s.insertMessages ms = (0, s) := by
  rw [insertMessages_eq, novel_of_known h, addRows_nil, List.length_nil]

/-- What a commit writes that carries messages only. -/
def mailing (transactionId : Uuid) (messages : List Message) : ChangeSet where
  transactionId := transactionId
  messages := messages

/-- Without an armed fault, a commit of messages inserts them. -/
theorem commit_mailing {s : Store} (unarmed : s.faults.commit = none) (t : Uuid)
    (ms : List Message) : (commit (mailing t ms)).run s =
      (.ok (.ok ⟨0, (s.insertMessages ms).1⟩), (s.insertMessages ms).2) := by
  rw [commit, Action.run_bind_of_ok (Action.run_ask _ s), unarmed]
  rfl

/-! ## §3 The order of delivery -/

/-- Of an outbox with added rows, those whose identifiers were stored before are the old ones. -/
theorem filter_outbox_addRows {s : Store} {ms : List Message} (hnew : ∀ m ∈ ms, m.id ∉ s.ids) :
    (s.addRows ms).outbox.filter (fun r => s.hasMessage r.2.id) = s.outbox := by
  have hold : ∀ r ∈ s.outbox, s.hasMessage r.2.id = true := fun r hr =>
    (hasMessage_iff s r.2.id).mpr (List.mem_map_of_mem (f := fun r => r.2.id) hr)
  have hadded : ∀ r ∈ numbered s.nextSeq ms, ¬ s.hasMessage r.2.id = true := by
    intro r hr
    have hmem : r.2 ∈ (numbered s.nextSeq ms).map Prod.snd := List.mem_map_of_mem hr
    rw [map_snd_numbered] at hmem
    exact fun h => hnew r.2 hmem ((hasMessage_iff s r.2.id).mp h)
  rw [addRows, List.filter_append, List.filter_eq_self.mpr hold, List.filter_eq_nil_iff.mpr hadded,
    List.append_nil]

/-- Rows with new identifiers do not move the old rows in the order of delivery. -/
theorem filter_eligible_addRows {s : Store} (hs : s.Sound) {ms : List Message}
    (hnew : ∀ m ∈ ms, m.id ∉ s.ids) (maxAttempts : Option UInt32) :
    ((s.addRows ms).eligible maxAttempts).filter (fun m => s.hasMessage m.id) =
      s.eligible maxAttempts := by
  have hperm : (((s.addRows ms).eligibleRows maxAttempts).filter
      fun r => s.hasMessage r.2.id).Perm (s.eligibleRows maxAttempts) := by
    refine ((List.mergeSort_perm _ _).filter _).trans ?_
    rw [List.filter_comm, filter_outbox_addRows hnew]
    exact (List.mergeSort_perm _ _).symm
  -- both lists are sorted, and no two rows share a place in the order
  have hsorted : (((s.addRows ms).eligibleRows maxAttempts).filter
      fun r => s.hasMessage r.2.id).Pairwise fun a b => fetchedBefore a b = true :=
    (pairwise_eligibleRows _ maxAttempts).sublist List.filter_sublist
  have hstored : ∀ r ∈ s.eligibleRows maxAttempts, r ∈ s.outbox := fun r hr =>
    (mem_eligibleRows_iff.mp hr).1
  have hrows := hs.eq_of_perm_of_sorted hperm hstored hsorted (pairwise_eligibleRows s maxAttempts)
  rw [eligible_eq_map, eligible_eq_map, List.filter_map, ← hrows]
  rfl

/-! ## §4 Commits of messages -/

/-- What is left of a store and a list of messages after these were inserted. -/
structure Inserted (s : Store) (ms : List Message) (written : Nat) (s' : Store) : Prop where
  /-- Every new identifier counts once. -/
  count : written = ((ms.map Message.id).toFinset \ s.ids.toFinset).card
  /-- Behind the rows that were there, which stay as they are, stand the first messages with new
  identifiers in the order of the list. -/
  rows : ∃ added : List Message, s'.outbox = s.outbox ++ numbered s.nextSeq added ∧
    s'.nextSeq = s.nextSeq + added.length ∧ added.length = written ∧ added.Sublist ms ∧
    ∀ m, m ∈ added ↔ m.id ∉ s.ids ∧ ms.find? (fun m' => m'.id = m.id) = some m
  order : ∀ maxAttempts, (s'.eligible maxAttempts).filter (fun m => s.hasMessage m.id) =
    s.eligible maxAttempts
  elsewhere : s' = { s with outbox := s'.outbox, nextSeq := s'.nextSeq }

/-- What an insertion leaves, from which messages get a row and where. -/
theorem inserted_insertMessages {s : Store} (hs : s.Sound) (ms : List Message) :
    Inserted s ms (s.insertMessages ms).1 (s.insertMessages ms).2 := by
  rw [insertMessages_eq]
  constructor
  case count => exact length_novel s.ids ms
  case rows =>
    exact ⟨novel s.ids ms, rfl, rfl, rfl, novel_sublist s.ids ms, fun m => mem_novel_iff⟩
  case order =>
    exact filter_eligible_addRows hs fun m hm => (novel_subset hm).2
  case elsewhere => rfl

/-- Committing messages in two lists, one after the other, leaves the store that one commit of both
leaves, and the numbers of rows add up.  Messages whose identifiers are all stored change nothing,
whatever else they say. -/
theorem message_commits_compose {s : Store} (reachable : s.Reachable)
    (unarmed : s.faults.commit = none) (a b : List Message) (t t' t'' : Uuid) :
    ∃ n k s₁ s₂, (commit (mailing t a)).run s = (.ok (.ok ⟨0, n⟩), s₁) ∧
      (commit (mailing t' b)).run s₁ = (.ok (.ok ⟨0, k⟩), s₂) ∧
      (commit (mailing t'' (a ++ b))).run s = (.ok (.ok ⟨0, n + k⟩), s₂) ∧
      Inserted s (a ++ b) (n + k) s₂ ∧
      ∀ c, (∀ m ∈ c, m.id ∈ s.ids) → (commit (mailing t c)).run s = (.ok (.ok ⟨0, 0⟩), s) := by
  have hfirst := commit_mailing unarmed t a
  -- the first commit meets no fault, and arms none for the second one
  have hunarmed : (s.insertMessages a).2.faults.commit = none := by
    rw [insertMessages_eq]
    exact unarmed
  have hsecond := commit_mailing hunarmed t' b
  have hboth := commit_mailing unarmed t'' (a ++ b)
  have hinserted := inserted_insertMessages reachable.sound (a ++ b)
  rw [insertMessages_append] at hboth hinserted
  refine ⟨_, _, _, _, hfirst, hsecond, hboth, hinserted, fun c hc => ?_⟩
  rw [commit_mailing unarmed t c, insertMessages_of_stored hc]

/-- A letter about an item, sent at the given hour. -/
private def letterAt (hour n : Nat) : List Message :=
  (Message.ofEvent (Shop.created n) "Item" "7" (Uuid.ofNat 9)
    (.ofFields Shop.opening.date hour 0 0 0)).toOption.toList

/-- A mailbox with two letters, the first of which could not be delivered once. -/
private def mailbox : Store :=
  let filled := ((commit (mailing (Uuid.ofNat 9) (letterAt 12 1 ++ letterAt 11 2))).run {}).2
  ((recordFailure (Uuid.ofNat 1) "road closed").run filled).2

private def repeated : List Message := letterAt 8 1 ++ letterAt 9 3 ++ letterAt 7 3
private def again : List Message := letterAt 6 3 ++ letterAt 5 2 ++ letterAt 10 4

/-- Letters that are in the mailbox already, and letters that come twice, in one list and in the
other. -/
theorem repeated_messages_stored_once :
    mailbox.Reachable ∧ mailbox.faults.commit = none ∧
    ((commit (mailing (Uuid.ofNat 8) (repeated ++ again))).run mailbox).2.messages =
      mailbox.messages ++ letterAt 9 3 ++ letterAt 10 4 ∧
    ∃ n k s₁ s₂, (commit (mailing (Uuid.ofNat 6) repeated)).run mailbox = (.ok (.ok ⟨0, n⟩), s₁) ∧
      (commit (mailing (Uuid.ofNat 7) again)).run s₁ = (.ok (.ok ⟨0, k⟩), s₂) ∧
      (commit (mailing (Uuid.ofNat 8) (repeated ++ again))).run mailbox =
        (.ok (.ok ⟨0, n + k⟩), s₂) ∧
      Inserted mailbox (repeated ++ again) (n + k) s₂ ∧
      ∀ c, (∀ m ∈ c, m.id ∈ mailbox.ids) →
        (commit (mailing (Uuid.ofNat 6) c)).run mailbox = (.ok (.ok ⟨0, 0⟩), mailbox) := by
  have hreachable : mailbox.Reachable := (Reachable.empty.commit _).recordFailure _ _
  have hunarmed : mailbox.faults.commit = none := by decide +kernel
  exact ⟨hreachable, hunarmed, by decide +kernel,
    message_commits_compose hreachable hunarmed repeated again _ _ _⟩

end EventOutbox.Store
