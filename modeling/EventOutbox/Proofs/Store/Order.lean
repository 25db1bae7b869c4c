import EventOutbox.Proofs.Aligned
import EventOutbox.Proofs.Store.Rows
import Mathlib.Data.List.Perm.Subperm

/-!
# The order of delivery

Rows are fetched by the time at which they were captured, and rows of one time in the order of their
insertion.  Where time does not run back along the outbox, this is the order of insertion.  A row
that a batch leaves out stands behind the whole batch.

## Main statements

- `Store.eligible_of_times`: rows in the order of time are fetched in the order of insertion.
- `Store.fetched_or_behind`: a row is fetched, or the batch is full of rows before it.
-/

namespace EventOutbox

theorem Instant.le_iff {a b : Instant} : a ≤ b ↔ a.rank ≤ b.rank := Iff.rfl

theorem Instant.lt_iff {a b : Instant} : a < b ↔ a.rank < b.rank := Iff.rfl

theorem Instant.le_refl (a : Instant) : a ≤ a := Int.le_refl a.rank

theorem Instant.le_trans {a b c : Instant} (h : a ≤ b) (h' : b ≤ c) : a ≤ c := Int.le_trans h h'

namespace Store

/-! ## §1 The order of rows -/

/-- The order in terms of ranks and numbers. -/
theorem fetchedBefore_iff {a b : Nat × Message} : fetchedBefore a b = true ↔
    a.2.createdAt.rank < b.2.createdAt.rank ∨
      (a.2.createdAt.rank ≤ b.2.createdAt.rank ∧ a.1 ≤ b.1) := by
  simp only [fetchedBefore, Bool.or_eq_true, Bool.and_eq_true, decide_eq_true_eq, Instant.le_iff,
    Instant.lt_iff]

theorem fetchedBefore_trans (a b c : Nat × Message) (hab : fetchedBefore a b = true)
    (hbc : fetchedBefore b c = true) : fetchedBefore a c = true := by
  rw [fetchedBefore_iff] at *
  omega

theorem fetchedBefore_total (a b : Nat × Message) :
    (fetchedBefore a b || fetchedBefore b a) = true := by
  rw [Bool.or_eq_true, fetchedBefore_iff, fetchedBefore_iff]
  omega

/-- The order heeds the number and the time of a row only. -/
theorem fetchedBefore_congr {a a' b b' : Nat × Message} (hnumber : a'.1 = a.1)
    (hsame : a.2.SameEvent a'.2) (hnumber' : b'.1 = b.1) (hsame' : b.2.SameEvent b'.2) :
    fetchedBefore a' b' = fetchedBefore a b := by
  simp only [fetchedBefore, hnumber, hnumber', hsame.createdAt, hsame'.createdAt]

/-- The eligible rows with their numbers, the oldest first. -/
def eligibleRows (s : Store) (maxAttempts : Option UInt32) : List (Nat × Message) :=
  (s.outbox.filter fun r => r.2.isPending && !r.2.attemptsExhausted maxAttempts).mergeSort
    fetchedBefore

/-- The rows that are fetched are the sorted ones without their numbers. -/
theorem eligible_eq_map (s : Store) (maxAttempts : Option UInt32) :
    s.eligible maxAttempts = (s.eligibleRows maxAttempts).map Prod.snd := rfl

/-- The eligible rows stand in the order of delivery. -/
theorem pairwise_eligibleRows (s : Store) (maxAttempts : Option UInt32) :
    (s.eligibleRows maxAttempts).Pairwise fun a b => fetchedBefore a b = true :=
  List.pairwise_mergeSort fetchedBefore_trans fetchedBefore_total _

/-- The rows in the order of delivery are the pending ones with attempts left. -/
theorem mem_eligibleRows_iff {s : Store} {maxAttempts : Option UInt32} {r : Nat × Message} :
    r ∈ s.eligibleRows maxAttempts ↔
      r ∈ s.outbox ∧ r.2.isPending = true ∧ r.2.attemptsExhausted maxAttempts = false := by
  rw [eligibleRows, List.mem_mergeSort, List.mem_filter, Bool.and_eq_true, Bool.not_eq_true']

/-! ## §2 Rows in the order of time -/

/-- Along the outbox, time does not run back. -/
def InTime (s : Store) : Prop :=
  s.messages.Pairwise fun m m' => m.createdAt ≤ m'.createdAt

/-- Rows in the order of time are fetched in the order of their insertion. -/
theorem eligible_of_times {s : Store} (hs : s.Sound) (htimes : s.InTime)
    (maxAttempts : Option UInt32) : s.eligible maxAttempts =
      s.messages.filter fun m => m.isPending && !m.attemptsExhausted maxAttempts := by
  have hnumbers := List.pairwise_map.mp hs.numbers_increase
  have htimes := List.pairwise_map.mp htimes
  -- the outbox is sorted already, so sorting leaves it as it is
  have hsorted : s.outbox.Pairwise fun a b => fetchedBefore a b = true := by
    refine (hnumbers.and htimes).imp fun {a b} h => ?_
    rw [fetchedBefore_iff]
    exact .inr ⟨h.2, Nat.le_of_lt h.1⟩
  rw [eligible, List.mergeSort_of_pairwise (hsorted.sublist List.filter_sublist), messages,
    List.filter_map]
  rfl

/-! ## §3 Rows that a batch leaves out -/

/-- What stands in a sorted list, but not among its first elements, stands behind all of these. -/
theorem behind_of_not_mem_take {α : Type} {R : α → α → Prop} {xs : List α} (hsorted : xs.Pairwise R)
    {x : α} (hx : x ∈ xs) {n : Nat} (hnot : x ∉ xs.take n) :
    (xs.take n).length = n ∧ ∀ y ∈ xs.take n, R y x := by
  have hrest : x ∈ xs.drop n := by
    rw [← List.take_append_drop n xs] at hx
    exact (List.mem_append.mp hx).resolve_left hnot
  refine ⟨?_, fun y hy => ?_⟩
  · -- otherwise nothing would be left out
    rw [List.length_take, Nat.min_eq_left]
    by_contra hshort
    rw [List.drop_of_length_le (Nat.le_of_not_le hshort)] at hrest
    simp at hrest
  · rw [← List.take_append_drop n xs, List.pairwise_append] at hsorted
    exact hsorted.2.2 y hy x hrest

/-- The row stands strictly before another one. -/
def standsBefore (a b : Nat × Message) : Bool :=
  fetchedBefore a b && a.1 ≠ b.1

theorem standsBefore_iff {a b : Nat × Message} :
    standsBefore a b = true ↔ fetchedBefore a b = true ∧ a.1 ≠ b.1 := by
  simp only [standsBefore, Bool.and_eq_true, decide_eq_true_eq]

/-- Of two rows, at most one stands before the other. -/
theorem not_standsBefore_of_fetchedBefore {a b : Nat × Message} (h : fetchedBefore a b = true) :
    standsBefore b a = false := by
  rw [Bool.eq_false_iff, ne_eq, standsBefore_iff]
  rw [fetchedBefore_iff] at *
  omega

/-- The number of a row tells it apart. -/
theorem Sound.row_eq_of_number_eq {s : Store} (hs : s.Sound) {r r' : Nat × Message}
    (hr : r ∈ s.outbox) (hr' : r' ∈ s.outbox) (h : r.1 = r'.1) : r = r' :=
  List.inj_on_of_nodup_map (hs.numbers_increase.imp Nat.ne_of_lt) hr hr' h

/-- The identifier of a row tells it apart. -/
theorem Sound.row_eq_of_id_eq {s : Store} (hs : s.Sound) {r r' : Nat × Message}
    (hr : r ∈ s.outbox) (hr' : r' ∈ s.outbox) (h : r.2.id = r'.2.id) : r = r' := by
  have hnodup : (s.outbox.map (·.2.id)).Nodup := hs.ids_nodup
  exact List.inj_on_of_nodup_map hnodup hr hr' h

/-- Two rows of a sound store of which each is fetched before the other are the same row. -/
theorem Sound.fetchedBefore_antisymm {s : Store} (hs : s.Sound) {r r' : Nat × Message}
    (hr : r ∈ s.outbox) (hr' : r' ∈ s.outbox) (h : fetchedBefore r r' = true)
    (h' : fetchedBefore r' r = true) : r = r' := by
  -- each before the other means the same time and the same number
  refine hs.row_eq_of_number_eq hr hr' ?_
  rw [fetchedBefore_iff] at h h'
  omega

/-- Rows of the outbox can be put in order in one way only. -/
theorem Sound.eq_of_perm_of_sorted {s : Store} (hs : s.Sound) {xs ys : List (Nat × Message)}
    (hperm : xs.Perm ys) (hstored : ∀ r ∈ ys, r ∈ s.outbox)
    (hxs : xs.Pairwise fun a b => fetchedBefore a b = true)
    (hys : ys.Pairwise fun a b => fetchedBefore a b = true) : xs = ys := by
  refine hperm.eq_of_pairwise (fun r r' hr hr' => ?_) hxs hys
  exact hs.fetchedBefore_antisymm (hstored r (hperm.subset hr)) (hstored r' hr')

/-- An eligible row is among those that are fetched, or these are as many as may be fetched and all
stand before it. -/
theorem fetched_or_behind {s : Store} (hs : s.Sound) {maxAttempts : Option UInt32}
    {r : Nat × Message} (hr : r ∈ s.eligibleRows maxAttempts) (n : Nat) :
    r.2 ∈ (s.eligible maxAttempts).take n ∨
      ((s.eligible maxAttempts).take n).length = n ∧ ∀ m ∈ (s.eligible maxAttempts).take n,
        ∃ x ∈ s.eligibleRows maxAttempts, x.2 = m ∧ standsBefore x r = true := by
  rw [eligible_eq_map, ← List.map_take]
  by_cases hmem : r ∈ (s.eligibleRows maxAttempts).take n
  · exact .inl (List.mem_map_of_mem hmem)
  · -- it is left out, so it stands behind the rows that are taken
    right
    obtain ⟨hlength, hbehind⟩ :=
      behind_of_not_mem_take (s.pairwise_eligibleRows maxAttempts) hr hmem
    refine ⟨by rw [List.length_map, hlength], fun m hm => ?_⟩
    obtain ⟨x, hx, rfl⟩ := List.mem_map.mp hm
    have hx' := List.mem_of_mem_take hx
    refine ⟨x, hx', rfl, standsBefore_iff.mpr ⟨hbehind x hx, fun hnumber => hmem ?_⟩⟩
    -- the same number would make it the row itself, which was left out
    have hxr : x = r := hs.row_eq_of_number_eq (mem_eligibleRows_iff.mp hx').1
      (mem_eligibleRows_iff.mp hr).1 hnumber
    exact hxr ▸ hx

/-- A row is not fetched when as many eligible rows as may be fetched stand before it. -/
theorem not_fetched_of_full {s : Store} (hs : s.Sound) {maxAttempts : Option UInt32}
    {r : Nat × Message} (hr : r ∈ s.outbox) {ids : List Uuid} (hnodup : ids.Nodup)
    (hahead : ∀ id ∈ ids, ∃ x ∈ s.eligibleRows maxAttempts,
      x.2.id = id ∧ standsBefore x r = true) :
    r.2.id ∉ ((s.eligible maxAttempts).take ids.length).map Message.id := by
  rw [eligible_eq_map, ← List.map_take, List.map_map]
  intro hmem
  obtain ⟨r', hr', hid⟩ := List.mem_map.mp hmem
  have hrr : r' = r :=
    hs.row_eq_of_id_eq (mem_eligibleRows_iff.mp (List.mem_of_mem_take hr')).1 hr hid
  subst hrr
  -- what stands before the row is found before it, where there is not enough room
  obtain ⟨before, behind, hsplit⟩ := List.append_of_mem hr'
  have hsorted := s.pairwise_eligibleRows maxAttempts
  rw [← List.take_append_drop ids.length (s.eligibleRows maxAttempts), hsplit] at hsorted hahead
  rw [List.append_assoc, List.pairwise_append] at hsorted
  have hsubset : ids ⊆ before.map (·.2.id) := by
    intro id hid
    obtain ⟨x, hx, rfl, hbefore⟩ := hahead id hid
    rw [List.append_assoc, List.mem_append] at hx
    rcases hx with hx | hx
    · exact List.mem_map_of_mem hx
    · exfalso
      rcases List.mem_cons.mp hx with rfl | hx
      · rw [standsBefore_iff] at hbefore
        exact hbefore.2 rfl
      · have hafter := not_standsBefore_of_fetchedBefore
          (List.rel_of_pairwise_cons hsorted.2.1 hx)
        rw [hafter] at hbefore
        cases hbefore
  -- so the rows before it are too many for it to be taken
  have hle := (hnodup.subperm hsubset).length_le
  have hlength : ((s.eligibleRows maxAttempts).take ids.length).length ≤ ids.length :=
    List.length_take_le _ _
  rw [hsplit, List.length_append, List.length_cons] at hlength
  rw [List.length_map] at hle
  omega

/-! ## §4 Rows that leave -/

variable {s s' : Store} {maxAttempts : Option UInt32} {gone : Nat × Message → Bool}

/-- Where some rows are no longer pending and the others are as they were, the others stay in their
order. -/
theorem eligibleRows_of_gone (hs : s.Sound)
    (h : List.Forall₂ (fun r r' => if gone r then r'.2.isPending = false else r' = r)
      s.outbox s'.outbox) :
    s'.eligibleRows maxAttempts = (s.eligibleRows maxAttempts).filter fun r => !gone r := by
  -- the rows that have gone are no longer pending, and the others are eligible as they were
  have hfilter := filter_eq_of_forall₂
    (p := fun r => !gone r && (r.2.isPending && !r.2.attemptsExhausted maxAttempts))
    (q := fun r => r.2.isPending && !r.2.attemptsExhausted maxAttempts) h fun r _ _ => by
      cases hgone : gone r <;> simp_all
  have hperm : (s'.eligibleRows maxAttempts).Perm
      ((s.eligibleRows maxAttempts).filter fun r => !gone r) := by
    rw [eligibleRows, hfilter, ← List.filter_filter]
    exact (List.mergeSort_perm _ _).trans ((List.mergeSort_perm _ _).symm.filter _)
  have hstored : ∀ r ∈ (s.eligibleRows maxAttempts).filter (fun r => !gone r), r ∈ s.outbox :=
    fun r hr => (mem_eligibleRows_iff.mp (List.mem_of_mem_filter hr)).1
  -- both lists are sorted and hold the same rows
  exact hs.eq_of_perm_of_sorted hperm hstored (s'.pairwise_eligibleRows maxAttempts)
    ((s.pairwise_eligibleRows maxAttempts).sublist List.filter_sublist)

end Store

end EventOutbox
