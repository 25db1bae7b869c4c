import EventOutbox.Proofs.Store.Order
import EventOutbox.Proofs.Store.Reachable
import EventOutbox.Proofs.Text.Instants
import EventOutbox.Shop

/-!
# The oldest eligible rows

A fetch answers with the pending rows that have attempts left, the oldest first, and leaves out
those beyond the limit.  Rows are as old as the time at which they were captured, and rows of one
time as their place in the outbox.  In a reachable store no two rows are of one age, so there is
only one list of the oldest rows for each limit, and the lists of smaller limits stand at its front.

## Main statements

- `Store.Oldest.eq_take`: only one list holds the oldest eligible rows.
- `Store.fetch_oldest_first`: a fetch answers with this list.
-/

namespace EventOutbox

/-! ## §1 Ages -/

/-- Instants of one rank are the same: none of their fields outgrows its place. -/
theorem Instant.rank_inj {a b : Instant} (h : a.rank = b.rank) : a = b := by
  obtain ⟨⟨year, month, day, hday⟩, hour, minute, second, nano⟩ := a
  obtain ⟨⟨year', month', day', hday'⟩, hour', minute', second', nano'⟩ := b
  have hmonth := hday.2.1
  have hmonth' := hday'.2.1
  have hlength : day ≤ 31 := Nat.le_trans hday.2.2.2 (daysInMonth_le year month)
  have hlength' : day' ≤ 31 := Nat.le_trans hday'.2.2.2 (daysInMonth_le year' month')
  -- no month counts more than thirty-one days, so the fields can be read off the rank in turn
  simp only [rank] at h
  obtain ⟨rfl, rfl, rfl⟩ : year = year' ∧ month = month' ∧ day = day' := by omega
  obtain ⟨rfl, rfl, rfl, rfl⟩ :
      hour = hour' ∧ minute = minute' ∧ second = second' ∧ nano = nano' := by
    simp only [Fin.ext_iff]
    omega
  rfl

namespace Store

/-- The row was captured before another one, or at the same time and inserted before it. -/
def Older (a b : Nat × Message) : Prop :=
  a.2.createdAt < b.2.createdAt ∨ (a.2.createdAt = b.2.createdAt ∧ a.1 < b.1)

instance (a b : Nat × Message) : Decidable (Older a b) :=
  inferInstanceAs (Decidable (_ ∨ _))

/-- Age is decided by numbers alone: the rank of the time, and then that of the row. -/
theorem older_iff {a b : Nat × Message} : Older a b ↔ a.2.createdAt.rank < b.2.createdAt.rank ∨
    (a.2.createdAt.rank = b.2.createdAt.rank ∧ a.1 < b.1) := by
  have heq : a.2.createdAt = b.2.createdAt ↔ a.2.createdAt.rank = b.2.createdAt.rank :=
    ⟨congrArg Instant.rank, Instant.rank_inj⟩
  rw [Older, Instant.lt_iff, heq]

theorem Older.asymm {a b : Nat × Message} (h : Older a b) : ¬ Older b a := by
  rw [older_iff] at *
  omega

/-- Of two rows with different numbers, the one that is fetched first is the older one. -/
theorem older_of_fetchedBefore {a b : Nat × Message} (h : fetchedBefore a b = true)
    (hother : a.1 ≠ b.1) : Older a b := by
  rw [older_iff]
  rw [fetchedBefore_iff] at h
  omega

/-! ## §2 The oldest rows -/

variable {s : Store} {maxAttempts : Option UInt32} {limit : Nat} {rows : List (Nat × Message)}

/-- Whether a row is pending and has attempts left. -/
def isEligible (maxAttempts : Option UInt32) (r : Nat × Message) : Bool :=
  r.2.isPending && !r.2.attemptsExhausted maxAttempts

/-- These are the oldest eligible rows of a store, as many as there are up to a limit. -/
structure Oldest (s : Store) (maxAttempts : Option UInt32) (limit : Nat)
    (rows : List (Nat × Message)) : Prop where
  /-- Rows are taken from the outbox as they are. -/
  stored : ∀ r ∈ rows, r ∈ s.outbox
  eligible : ∀ r ∈ rows, isEligible maxAttempts r = true
  increasing : rows.Pairwise Older
  length : rows.length = min limit (s.outbox.countP (isEligible maxAttempts))
  /-- What is left out is younger. -/
  behind : ∀ r ∈ s.outbox, isEligible maxAttempts r = true → r ∉ rows → ∀ x ∈ rows, Older x r

theorem mem_eligibleRows {r : Nat × Message} :
    r ∈ s.eligibleRows maxAttempts ↔ r ∈ s.outbox ∧ isEligible maxAttempts r = true := by
  rw [eligibleRows, List.mem_mergeSort, List.mem_filter]
  rfl

/-- There are as many rows to fetch as there are eligible ones in the outbox. -/
theorem length_eligibleRows (s : Store) (maxAttempts : Option UInt32) :
    (s.eligibleRows maxAttempts).length = s.outbox.countP (isEligible maxAttempts) := by
  rw [eligibleRows, List.length_mergeSort, List.countP_eq_length_filter]
  rfl

/-- In a sound store the eligible rows stand in the order of their age, none of them twice. -/
theorem Sound.pairwise_older (hs : s.Sound) (maxAttempts : Option UInt32) :
    (s.eligibleRows maxAttempts).Pairwise Older := by
  -- rows that are distinct by their identifiers are distinct
  have hnodup : (s.eligibleRows maxAttempts).Nodup := by
    have hids : ((s.eligibleRows maxAttempts).map (·.2.id)).Nodup := by
      have h := hs.nodup_eligible maxAttempts
      rwa [eligible_eq_map, List.map_map] at h
    exact hids.of_map _
  refine ((s.pairwise_eligibleRows maxAttempts).and hnodup).imp_of_mem fun ha hb h => ?_
  refine older_of_fetchedBefore h.1 fun hnumber => h.2 ?_
  exact hs.row_eq_of_number_eq (mem_eligibleRows.mp ha).1 (mem_eligibleRows.mp hb).1 hnumber

/-- The front of the eligible rows holds the oldest ones. -/
theorem Sound.oldest_take (hs : s.Sound) (maxAttempts : Option UInt32) (limit : Nat) :
    s.Oldest maxAttempts limit ((s.eligibleRows maxAttempts).take limit) where
  stored := fun _ hr => (mem_eligibleRows.mp (List.mem_of_mem_take hr)).1
  eligible := fun _ hr => (mem_eligibleRows.mp (List.mem_of_mem_take hr)).2
  increasing := (hs.pairwise_older maxAttempts).sublist (List.take_sublist _ _)
  length := by rw [List.length_take, length_eligibleRows]
  behind := fun _ hr heligible hnot =>
    (behind_of_not_mem_take (hs.pairwise_older maxAttempts) (mem_eligibleRows.mpr ⟨hr, heligible⟩)
      hnot).2

/-- In sorted lists, a selection that leaves out only what stands behind it is the front. -/
theorem prefix_of_behind {α : Type} {R : α → α → Prop} (asymm : ∀ {x y}, R x y → ¬ R y x)
    {xs ys : List α} (hxs : xs.Pairwise R) (hys : ys.Pairwise R) (hsubset : ys ⊆ xs)
    (hbehind : ∀ x ∈ xs, x ∉ ys → ∀ y ∈ ys, R y x) : ys <+: xs := by
  -- on the selection, whose first element is shown to be that of the list
  induction ys generalizing xs with
  | nil => exact List.nil_prefix
  | cons y ys ih =>
    cases xs with
    | nil => exact absurd (hsubset List.mem_cons_self) List.not_mem_nil
    | cons x xs =>
      rw [List.pairwise_cons] at hxs hys
      -- the first element of either list would stand before that of the other one
      obtain rfl : y = x := by
        by_contra hne
        have hyxs : y ∈ xs :=
          (List.mem_cons.mp (hsubset List.mem_cons_self)).resolve_left hne
        have hyx : R y x := by
          by_cases hx : x ∈ y :: ys
          · exact hys.1 x ((List.mem_cons.mp hx).resolve_left (Ne.symm hne))
          · exact hbehind x List.mem_cons_self hx y List.mem_cons_self
        exact asymm hyx (hxs.1 y hyxs)
      -- behind the first element nothing is equal to it, so the rest is selected from the rest
      have hne : ∀ z, R y z → z ≠ y := fun z hz heq => asymm (heq ▸ hz) (heq ▸ hz)
      refine (List.prefix_cons_inj y).mpr (ih hxs.2 hys.2 (fun z hz => ?_) fun z hz hnot => ?_)
      · exact (List.mem_cons.mp (hsubset (List.mem_cons_of_mem _ hz))).resolve_left
          (hne z (hys.1 z hz))
      · have hz' : z ∉ y :: ys := fun h =>
          (List.mem_cons.mp h).elim (hne z (hxs.1 z hz)) hnot
        exact fun w hw =>
          hbehind z (List.mem_cons_of_mem _ hz) hz' w (List.mem_cons_of_mem _ hw)

/-- Whatever list holds the oldest eligible rows, it is the front of all of them. -/
theorem Oldest.eq_take (hs : s.Sound) (h : s.Oldest maxAttempts limit rows) :
    rows = (s.eligibleRows maxAttempts).take limit := by
  have hprefix : rows <+: s.eligibleRows maxAttempts := by
    refine prefix_of_behind Older.asymm (hs.pairwise_older maxAttempts) h.increasing ?_ ?_
    · exact fun r hr => mem_eligibleRows.mpr ⟨h.stored r hr, h.eligible r hr⟩
    · exact fun r hr => h.behind r (mem_eligibleRows.mp hr).1 (mem_eligibleRows.mp hr).2
  calc rows = (s.eligibleRows maxAttempts).take rows.length := List.prefix_iff_eq_take.mp hprefix
    _ = (s.eligibleRows maxAttempts).take limit := by
      rw [h.length, ← length_eligibleRows, ← List.take_eq_take_min]

/-! ## §3 Fetches -/

/-- A fetch that meets no fault answers with the oldest eligible rows, and changes nothing. -/
theorem fetch_oldest_first (reachable : s.Reachable) (unfaulted : s.faults.fetch = none)
    (maxAttempts : Option UInt32) (limit : UInt32) :
    ∃ rows, (fetch limit maxAttempts).run s = (.ok (.ok (rows.map Prod.snd)), s) ∧
      s.Oldest maxAttempts limit.toNat rows ∧
      (∀ other, s.Oldest maxAttempts limit.toNat other → other = rows) ∧
      ((rows.map Prod.snd).map Message.id).Nodup ∧
      ∀ fewer ≤ limit, ∃ front, front <+: rows ∧
        (fetch fewer maxAttempts).run s = (.ok (.ok (front.map Prod.snd)), s) := by
  have hs := reachable.sound
  have hrun : ∀ limit : UInt32, (fetch limit maxAttempts).run s =
      (.ok (.ok (((s.eligibleRows maxAttempts).take limit.toNat).map Prod.snd)), s) := by
    intro limit
    rw [fetch_run, unfaulted, eligible_eq_map, List.map_take]
  refine ⟨(s.eligibleRows maxAttempts).take limit.toNat, hrun limit,
    -- that no other list will do is uniqueness, and that fewer rows are the front is a matter of
    -- lengths
    hs.oldest_take maxAttempts limit.toNat, fun other hother => hother.eq_take hs, ?_,
    fun fewer hfewer => ⟨_, ?_, hrun fewer⟩⟩
  · rw [List.map_take, ← eligible_eq_map]
    exact (hs.nodup_eligible maxAttempts).sublist ((List.take_sublist _ _).map _)
  · exact List.take_prefix_take_left (UInt32.le_iff_toNat_le.mp hfewer)

/-- A postcard about an item, sent at the given hour. -/
private def postcard (hour n : Nat) : List Message :=
  (Message.ofEvent (Shop.created n) "Item" "7" (Uuid.ofNat 9)
    (.ofFields Shop.opening.date hour 0 0 0)).toOption.toList

/-- A rack of five postcards.  The oldest one could not be delivered once, and the next one was. -/
private def rack : Store :=
  let filled := ((commit {
    transactionId := Uuid.ofNat 9
    messages := postcard 12 1 ++ postcard 11 2 ++ postcard 11 3 ++ postcard 9 4 ++ postcard 8 5
  }).run {}).2
  let delivered := ((markProcessed (Uuid.ofNat 4) Shop.opening).run filled).2
  ((recordFailure (Uuid.ofNat 5) "road closed").run delivered).2

/-- The second and the third postcard are of one hour and older than the first one. -/
private theorem oldest_rack : rack.Oldest (some 1) 2 ((rack.outbox.drop 1).take 2) where
  stored := fun _ hr => List.mem_of_mem_drop (List.mem_of_mem_take hr)
  eligible := by decide +kernel
  increasing := by decide +kernel
  length := by decide +kernel
  behind := by decide +kernel

/-- Two postcards are fetched that are neither delivered nor given up nor the youngest one. -/
theorem oldest_two_waiting_fetched : rack.Reachable ∧ rack.faults.fetch = none ∧
    (fetch 2 (some 1)).run rack = (.ok (.ok (postcard 11 2 ++ postcard 11 3)), rack) := by
  have hreachable : rack.Reachable :=
    ((Reachable.empty.commit _).markProcessed _ _).recordFailure _ _
  have hunfaulted : rack.faults.fetch = none := by decide +kernel
  obtain ⟨rows, hrun, -, honly, -⟩ := fetch_oldest_first hreachable hunfaulted (some 1) 2
  rw [hrun, ← honly _ oldest_rack]
  have hrows : ((rack.outbox.drop 1).take 2).map Prod.snd = postcard 11 2 ++ postcard 11 3 := by
    decide +kernel
  exact ⟨hreachable, hunfaulted, by rw [hrows]⟩

end Store

end EventOutbox
