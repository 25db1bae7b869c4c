import EventOutbox.Proofs.Delivery.Course
import EventOutbox.Proofs.Service.Sample
import EventOutbox.Proofs.Store.Order
import EventOutbox.Proofs.Store.Reachable

/-!
# A cycle row by row

What a cycle does to the rows of a store.  Each attempt changes the row that it is about and no
other one, in a way that only its own verdict decides.  Because no identifier occurs twice in the
batch, a row keeps what its attempt left until the end of the cycle.

## Main statements

- `Dispatcher.Attempt.replaces`: an attempt replaces one row, as its verdict says.
- `Dispatcher.Course.rows`: the rows of the outbox after a course.
- `Dispatcher.dispatchOnce_rowByRow`: a cycle that reports, row by row.
-/

namespace EventOutbox

variable {W κ : Type} [EventCatalog κ]

/-! ## §1 Replaced rows -/

/-- The rows of the store are the same. -/
structure Store.SameRows (s s' : Store) : Prop where
  entities : s'.entities = s.entities
  outbox : s'.outbox = s.outbox
  nextSeq : s'.nextSeq = s.nextSeq

theorem Store.SameRows.refl (s : Store) : s.SameRows s := ⟨rfl, rfl, rfl⟩

/-- The place of one row is taken by another; nothing else in the tables changes. -/
structure Store.Replaces (m m' : Message) (s s' : Store) : Prop where
  entities : s'.entities = s.entities
  outbox : s'.outbox = s.outbox.map fun r => if r.2.id = m.id then (r.1, m') else r
  nextSeq : s'.nextSeq = s.nextSeq

namespace Store

variable {s s₁ s' : Store} {m m' : Message}

/-- What comes before a replacement and changes no row may be left out. -/
theorem Replaces.after_same (same : s.SameRows s₁) (h : Replaces m m' s₁ s') :
    Replaces m m' s s' where
  entities := h.entities.trans same.entities
  outbox := by rw [h.outbox, same.outbox]
  nextSeq := h.nextSeq.trans same.nextSeq

/-- A change of the row with an identifier replaces the stored row and no other one. -/
theorem replaces_change (stored : s.Stored m) (f : Message → Message) :
    Replaces m (f m) s (s.change m.id f) where
  entities := rfl
  outbox := by
    rw [change, changeMessage_eq_map _ _ stored.sound.ids_nodup]
    refine List.map_congr_left fun r hr => ?_
    split
    -- the only row with the identifier is the row that is changed
    · next hid => rw [stored.sound.eq_of_id_eq (List.mem_map_of_mem hr) stored.mem hid]
    · rfl
  nextSeq := rfl

/-- A failed attempt that is told of is counted. -/
theorem replaces_of_recordFailure (stored : s.Stored m) {error : String}
    {answer : Except Failure Unit}
    (h : (recordFailure m.id error).run s = (.ok answer, s')) :
    m.retryCount.toNat + 1 < UInt32.size ∧ Replaces m (m.failed error) s s' := by
  by_cases room : m.retryCount.toNat + 1 < UInt32.size
  · rw [recordFailure_run stored.sound stored.mem error room] at h
    cases h
    exact ⟨room, replaces_change stored (Message.failed · error)⟩
  · rw [recordFailure_full stored.sound stored.mem error room] at h
    cases h

/-- A mark that succeeds marks the row. -/
theorem replaces_of_markProcessed (stored : s.Stored m) {at_ : Instant}
    (h : (markProcessed m.id at_).run s = (.ok (.ok ()), s')) :
    Replaces m (m.marked at_) s s' := by
  rw [markProcessed_run stored.sound stored.mem] at h
  cases hfault : s.faults.markProcessed with
  | some f =>
    rw [hfault] at h
    cases h
  | none =>
    rw [hfault] at h
    cases h
    exact replaces_change stored _

/-- A mark that fails at a stored row changes no row. -/
theorem sameRows_of_markProcessed (stored : s.Stored m) {at_ : Instant} {f : Failure}
    (h : (markProcessed m.id at_).run s = (.ok (.error f), s')) : s.SameRows s' := by
  rw [markProcessed_run stored.sound stored.mem] at h
  cases hfault : s.faults.markProcessed with
  | some f =>
    rw [hfault] at h
    cases h
    exact ⟨rfl, rfl, rfl⟩
  | none =>
    rw [hfault] at h
    cases h

/-- A store whose numbers and identifiers stay as they are is as sound as it was. -/
theorem Sound.of_rows (hs : s.Sound)
    (hrows : List.Forall₂ (fun r r' => r'.1 = r.1 ∧ r'.2.id = r.2.id) s.outbox s'.outbox)
    (hseq : s'.nextSeq = s.nextSeq) : s'.Sound := by
  have hids : s'.ids = s.ids := map_eq_of_forall₂ hrows fun _ _ h => h.2
  have hnumbers : s'.outbox.map Prod.fst = s.outbox.map Prod.fst :=
    map_eq_of_forall₂ hrows fun _ _ h => h.1
  constructor
  · rw [hids]
    exact hs.ids_nodup
  · rw [hnumbers]
    exact hs.numbers_increase
  · intro r' hr'
    obtain ⟨r, hr, hnumber, -⟩ := exists_left_of_forall₂ hrows hr'
    rw [hseq, hnumber]
    exact hs.numbers_below r hr

/-- A replacement leaves numbers and identifiers where they are. -/
theorem Replaces.sound (hs : s.Sound) (h : Replaces m m' s s') (hid : m'.id = m.id) :
    -- each row keeps its number, and the new row has the identifier of the old one
    s'.Sound := by
  refine hs.of_rows ?_ h.nextSeq
  rw [h.outbox, List.forall₂_map_right_iff, List.forall₂_same]
  intro r _
  split
  · next hr => exact ⟨rfl, hid.trans hr.symm⟩
  · exact ⟨rfl, rfl⟩

/-- A row with another identifier is still stored, as it was. -/
theorem Replaces.stored_other (stored : s.Stored m) (h : Replaces m m' s s') (hid : m'.id = m.id)
    {n : Message} (hn : n ∈ s.messages) (hother : n.id ≠ m.id) : s'.Stored n where
  sound := h.sound stored.sound hid
  mem := by
    obtain ⟨r, hr, rfl⟩ := List.mem_map.mp hn
    rw [messages, h.outbox, List.map_map]
    refine List.mem_map.mpr ⟨r, hr, ?_⟩
    simp only [Function.comp_apply, if_neg hother]

end Store

/-! ## §2 Actions on a part of the world -/

namespace Action

variable {σ α : Type} {cell : Cell W σ} {a : Action W α} {b : Action σ α}

/-- An action does to a part of the world what another one does when that part is the whole world.
-/
def ActsAs (cell : Cell W σ) (a : Action W α) (b : Action σ α) : Prop :=
  ∀ w, (a.run w).1 = (b.run (cell.get w)).1 ∧ cell.get (a.run w).2 = (b.run (cell.get w)).2

/-- A run that answers is a run on the part, with the same answer. -/
theorem ActsAs.run_ok (h : a.ActsAs cell b) {w w' : W} {x : α} (hrun : a.run w = (.ok x, w')) :
    b.run (cell.get w) = (.ok x, cell.get w') := by
  obtain ⟨hanswer, hcell⟩ := h w
  rw [hrun] at hanswer hcell
  exact Prod.ext hanswer.symm hcell.symm

theorem actsAs_focus (cell : Cell W σ) (b : Action σ α) : (cell.focus b).ActsAs cell b := by
  intro w
  rw [run_focus]
  exact ⟨rfl, cell.get_set _ _⟩

end Action

/-! ## §3 What a verdict leaves -/

/-- What the attempt with a verdict leaves of its row.  A published row is processed and otherwise
as it was.  A row that failed is still pending, with one more failed attempt and the text of its own
failure. -/
def Verdict.Leaves (m m' : Message) : Verdict → Prop
  | .published at_ => m' = m.markProcessed at_
  | .failed f | .skipped f =>
    m' = m.failed f.text ∧ m'.isPending = true ∧ m'.retryCount.toNat = m.retryCount.toNat + 1

/-- Whatever the verdict, the row is about the event that it was about. -/
theorem Verdict.Leaves.sameEvent {m m' : Message} {v : Verdict} (h : v.Leaves m m') :
    m.SameEvent m' := by
  cases v with
  | published at_ =>
    subst h
    exact ⟨rfl, rfl, rfl, rfl, rfl, rfl, rfl⟩
  | failed f =>
    obtain ⟨rfl, -⟩ := h
    exact m.sameEvent_failed f.text
  | skipped f =>
    obtain ⟨rfl, -⟩ := h
    exact m.sameEvent_failed f.text

/-- Exactly the published rows are no longer pending. -/
theorem Verdict.Leaves.isPending_eq {m m' : Message} {v : Verdict} (h : v.Leaves m m') :
    m'.isPending = !decide (v.outcome = .published) := by
  cases v with
  | published at_ =>
    subst h
    rfl
  | failed f => exact h.2.1
  | skipped f => exact h.2.1

/-- What becomes of a row when the first rows of a batch are attempted: the attempted rows are as
their own verdicts leave them, and every other row is as it was. -/
structure Verdict.Fate (batch : List Message) (verdicts : List Verdict) (m m' : Message) :
    Prop where
  attempted : ∀ (i : Nat) (v : Verdict), batch[i]? = some m → verdicts[i]? = some v → v.Leaves m m'
  untouched : m ∉ batch.take verdicts.length → m' = m

/-- Attempted or not, a row is about the event that it was about. -/
theorem Verdict.Fate.sameEvent {batch : List Message} {verdicts : List Verdict} {m m' : Message}
    -- the row stands in the part of the batch that was reached, where its verdict is, or nothing
    -- happened to it
    (h : Fate batch verdicts m m') : m.SameEvent m' := by
  by_cases hmem : m ∈ batch.take verdicts.length
  · obtain ⟨i, hi, hm⟩ := List.mem_take_iff_getElem.mp hmem
    have hverdict : i < verdicts.length := by omega
    have hbatch : batch[i]? = some m := List.getElem?_eq_some_iff.mpr ⟨by omega, hm⟩
    exact (h.attempted i _ hbatch (List.getElem?_eq_getElem hverdict)).sameEvent
  · rw [h.untouched hmem]
    exact .refl m

namespace Dispatcher

variable {d : Dispatcher W κ} {cell : Cell W Store}

/-! ## §4 Attempts on the rows of a store -/

/-- The dispatcher delivers the rows of a store, and what it calls besides the store does not write
to the rows there. -/
structure WorksOn (cell : Cell W Store) (d : Dispatcher W κ) : Prop where
  fetch : ∀ limit maxAttempts,
    (d.outbox.fetch limit maxAttempts).ActsAs cell (Store.fetch limit maxAttempts)
  markProcessed : ∀ id at_,
    (d.outbox.markProcessed id at_).ActsAs cell (Store.markProcessed id at_)
  recordFailure : ∀ id error,
    (d.outbox.recordFailure id error).ActsAs cell (Store.recordFailure id error)
  publish : ∀ e w, (cell.get w).SameRows (cell.get ((d.publish e).run w).2)
  setPhase : ∀ p w, cell.get ((d.setPhase p).run w).2 = cell.get w

/-- The answer of the publisher says nothing about the rows: they are the same in any case. -/
theorem WorksOn.sameRows_of_publish (works : d.WorksOn cell) {e : Event κ} {w w' : W}
    {answer : Except Failure Unit} (h : (d.publish e).run w = (.ok answer, w')) :
    (cell.get w).SameRows (cell.get w') := by
  have hsame := works.publish e w
  rwa [h] at hsame

theorem WorksOn.get_of_setPhase (works : d.WorksOn cell) {p : Phase} {w w' : W}
    (h : (d.setPhase p).run w = (.ok (), w')) : cell.get w' = cell.get w := by
  have hsame := works.setPhase p w
  rwa [h] at hsame

/-- What recording a failure leaves, whether it belongs to a row that failed or was skipped. -/
theorem WorksOn.leaves_of_recordFailure (works : d.WorksOn cell) {m : Message} {f : Failure}
    {u u' : W} {answer : Except Failure Unit} (stored : (cell.get u).Stored m)
    (pending : m.isPending = true)
    (h : (d.outbox.recordFailure m.id f.text).run u = (.ok answer, u')) :
    (Verdict.failed f).Leaves m (m.failed f.text) ∧
      Store.Replaces m (m.failed f.text) (cell.get u) (cell.get u') := by
  obtain ⟨room, hreplaces⟩ :=
    Store.replaces_of_recordFailure stored ((works.recordFailure m.id f.text).run_ok h)
  exact ⟨⟨rfl, pending, Message.retryCount_failed room f.text⟩, hreplaces⟩

/-- An attempt replaces the row that it is about, as its verdict says. -/
theorem Attempt.replaces (works : d.WorksOn cell) {m : Message} {u u' : W} {v : Verdict}
    (stored : (cell.get u).Stored m) (pending : m.isPending = true) (h : d.Attempt m u v u') :
    ∃ m', v.Leaves m m' ∧ Store.Replaces m m' (cell.get u) (cell.get u') := by
  cases h with
  | unreadable _ recorded => exact ⟨_, works.leaves_of_recordFailure stored pending recorded⟩
  -- the publisher wrote no row, so the row is still there to be counted
  | refused _ publish recorded =>
    have hsame := works.sameRows_of_publish publish
    have hstored := stored.congr hsame.outbox hsame.nextSeq
    obtain ⟨hleaves, hreplaces⟩ := works.leaves_of_recordFailure hstored pending recorded
    exact ⟨_, hleaves, hreplaces.after_same hsame⟩
  | unmarked _ publish mark recorded =>
    -- neither the publisher nor the mark that failed wrote a row
    have hsame₁ := works.sameRows_of_publish publish
    have hstored₁ := stored.congr hsame₁.outbox hsame₁.nextSeq
    have hsame₂ :=
      Store.sameRows_of_markProcessed hstored₁ ((works.markProcessed _ _).run_ok mark)
    have hstored₂ := hstored₁.congr hsame₂.outbox hsame₂.nextSeq
    obtain ⟨hleaves, hreplaces⟩ := works.leaves_of_recordFailure hstored₂ pending recorded
    exact ⟨_, hleaves, (hreplaces.after_same hsame₂).after_same hsame₁⟩
  | published _ publish mark =>
    -- the mark succeeded, hence it met the row as it was fetched
    have hsame := works.sameRows_of_publish publish
    have hstored := stored.congr hsame.outbox hsame.nextSeq
    have hreplaces :=
      Store.replaces_of_markProcessed hstored ((works.markProcessed _ _).run_ok mark)
    exact ⟨_, if_pos pending, hreplaces.after_same hsame⟩

/-! ## §5 Courses through the rows of a store -/

/-- The rows of a store after the first rows of a batch were attempted. -/
structure RowsAfter (batch : List Message) (verdicts : List Verdict) (s s' : Store) : Prop where
  entities : s'.entities = s.entities
  nextSeq : s'.nextSeq = s.nextSeq
  outbox : List.Forall₂ (fun r r' => r'.1 = r.1 ∧ Verdict.Fate batch verdicts r.2 r'.2)
    s.outbox s'.outbox

/-- Where no verdict was come to, no row changed. -/
theorem RowsAfter.none (batch : List Message) (s : Store) : RowsAfter batch [] s s where
  entities := rfl
  nextSeq := rfl
  outbox := List.forall₂_same.mpr fun _ _ =>
    ⟨rfl, fun _ _ _ hv => absurd hv (by simp), fun _ => rfl⟩

/-- The batch of a cycle: pending rows of the store, none of them twice. -/
structure Waiting (s : Store) (ms : List Message) : Prop where
  sound : s.Sound
  stored : ∀ m ∈ ms, m ∈ s.messages
  pending : ∀ m ∈ ms, m.isPending = true
  distinct : (ms.map Message.id).Nodup

/-- The rest of a batch still waits after the attempt on its first row. -/
theorem Waiting.after {s s' : Store} {m m' : Message} {ms : List Message}
    (h : Waiting s (m :: ms)) (hid : m'.id = m.id) (hreplaces : Store.Replaces m m' s s') :
    Waiting s' ms := by
  have hstored : s.Stored m := ⟨h.sound, h.stored m List.mem_cons_self⟩
  have hdistinct := List.nodup_cons.mp h.distinct
  constructor
  · exact hreplaces.sound h.sound hid
  -- a row behind the first one has another identifier, and is not the one that was replaced
  · intro n hn
    have hother : n.id ≠ m.id := fun heq => hdistinct.1 (heq ▸ List.mem_map_of_mem hn)
    exact (hreplaces.stored_other hstored hid (h.stored n (List.mem_cons_of_mem _ hn)) hother).mem
  · exact fun n hn => h.pending n (List.mem_cons_of_mem _ hn)
  · exact hdistinct.2

/-- One attempt, and then the rest of the batch. -/
theorem RowsAfter.cons {s s₁ s' : Store} {m m' : Message} {ms : List Message} {v : Verdict}
    {verdicts : List Verdict} (waiting : Waiting s (m :: ms)) (hleaves : v.Leaves m m')
    (hreplaces : Store.Replaces m m' s s₁) (h : RowsAfter ms verdicts s₁ s') :
    RowsAfter (m :: ms) (v :: verdicts) s s' where
  entities := h.entities.trans hreplaces.entities
  nextSeq := h.nextSeq.trans hreplaces.nextSeq
  outbox := by
    have hm : m ∈ s.messages := waiting.stored m List.mem_cons_self
    have hnotMem : m.id ∉ ms.map Message.id := (List.nodup_cons.mp waiting.distinct).1
    have hrows := h.outbox
    rw [hreplaces.outbox, List.forall₂_map_left_iff] at hrows
    refine forall₂_imp_of_mem hrows fun r hr r' ⟨hnumber, hfate⟩ => ?_
    by_cases hid : r.2.id = m.id
    · -- the row of this attempt: nothing behind it in the batch has its identifier
      rw [if_pos hid] at hnumber hfate
      have hrm : r.2 = m := waiting.sound.eq_of_id_eq (List.mem_map_of_mem hr) hm hid
      have hrest : m' ∉ ms.take verdicts.length := fun hmem => hnotMem <|
        hleaves.sameEvent.id ▸ List.mem_map_of_mem (List.mem_of_mem_take hmem)
      rw [hrm, hfate.untouched hrest]
      refine ⟨hnumber, fun i v' hi hv' => ?_, fun hnot => ?_⟩
      · cases i with
        | zero =>
          cases hv'
          exact hleaves
        | succ i =>
          have hmem : m ∈ ms := List.mem_of_getElem? hi
          exact absurd (List.mem_map_of_mem hmem) hnotMem
      · exact absurd List.mem_cons_self hnot
    -- another row: the attempt passed it by, and its fate is the one in the rest of the batch
    · rw [if_neg hid] at hnumber hfate
      refine ⟨hnumber, fun i v' hi hv' => ?_, fun hnot => hfate.untouched fun hmem => ?_⟩
      · cases i with
        | zero =>
          cases hi
          exact absurd rfl hid
        | succ i => exact hfate.attempted i v' hi hv'
      · exact hnot (List.mem_cons_of_mem _ hmem)

/-- The rows after a course: the induction is on the course, from the first row of the batch. -/
theorem Course.rows (works : d.WorksOn cell) {u u' : W} {ms : List Message}
    {verdicts : List Verdict} (course : d.Course u ms verdicts u')
    (waiting : Waiting (cell.get u) ms) :
    RowsAfter ms verdicts (cell.get u) (cell.get u') := by
  induction course with
  | finished u => exact .none [] _
  | stopped m ms stop => exact .none (m :: ms) _
  -- the course of the rest begins in the store that this attempt left
  | @row u m ms v u₁ verdicts u' go attempt rest ih =>
    have hstored : (cell.get u).Stored m := ⟨waiting.sound, waiting.stored m List.mem_cons_self⟩
    obtain ⟨m', hleaves, hreplaces⟩ :=
      attempt.replaces works hstored (waiting.pending m List.mem_cons_self)
    exact .cons waiting hleaves hreplaces (ih (waiting.after hleaves.sameEvent.id hreplaces))

/-! ## §6 Cycles -/

/-- A fetch that answers takes the oldest eligible rows and leaves the store as it is. -/
theorem WorksOn.of_fetchBatch (works : d.WorksOn cell) {w w₁ : W} {batch : List Message}
    (h : d.fetchBatch.run w = (.ok (.ok batch), w₁)) :
    batch = ((cell.get w).eligible d.config.maxAttempts).take d.config.batchSize.toNat ∧
      cell.get w₁ = cell.get w := by
  have hfetch : d.fetchBatch.Ensures w (fun answer w₁ => answer = .ok batch →
      batch = ((cell.get w).eligible d.config.maxAttempts).take d.config.batchSize.toNat ∧
        cell.get w₁ = cell.get w) fun _ => True := by
    rw [fetchBatch, Action.ensures_bind]
    refine (Action.ensures_true _ w).with_run.mono (fun _ w₀ h => ?_) fun _ h => h
    obtain ⟨hpolling, -⟩ := h
    refine (Action.ensures_true _ w₀).with_run.mono (fun answer w₁ h => ?_) fun _ h => h
    obtain ⟨hrun, -⟩ := h
    rintro rfl
    -- the store is still the one before the polling phase was announced
    have hstore := (works.fetch _ _).run_ok hrun
    rw [Store.fetch_run, works.get_of_setPhase hpolling] at hstore
    cases hfault : (cell.get w).faults.fetch with
    | some f =>
      rw [hfault] at hstore
      cases hstore
    | none =>
      rw [hfault] at hstore
      simp only [Prod.mk.injEq, Except.ok.injEq] at hstore
      exact ⟨hstore.1.symm, hstore.2.symm⟩
  have hrun : (d.fetchBatch.run w).1 = .ok (.ok batch) := by rw [h]
  have hanswer := hfetch.answered hrun rfl
  rwa [h] at hanswer

/-- The oldest eligible rows of a sound store wait. -/
theorem waiting_of_fetched {s : Store} (hs : s.Sound) (limit : Nat)
    (maxAttempts : Option UInt32) : Waiting s ((s.eligible maxAttempts).take limit) where
  sound := hs
  stored := fun _ hm => (Store.mem_eligible_iff.mp (List.mem_of_mem_take hm)).1
  pending := fun _ hm => (Store.mem_eligible_iff.mp (List.mem_of_mem_take hm)).2.1
  distinct := (hs.nodup_eligible maxAttempts).sublist ((List.take_sublist _ _).map _)

/-- The rows after a round are those after its course: the phases around it write no row. -/
theorem Round.rows (works : d.WorksOn cell) {w w' : W} (hs : (cell.get w).Sound)
    {batch : List Message} {verdicts : List Verdict} {r : DispatchReport}
    (h : d.Round w batch verdicts r w') :
    RowsAfter batch verdicts (cell.get w) (cell.get w') := by
  obtain ⟨w₁, hfetch⟩ := h.fetch_run
  have hwaiting : Waiting (cell.get w) batch := by
    rw [(works.of_fetchBatch hfetch).1]
    exact waiting_of_fetched hs _ _
  cases h with
  | nothing fetch idle =>
    rw [works.get_of_setPhase idle, (works.of_fetchBatch fetch).2]
    exact .none [] _
  | delivery fetch fetched publishing course complete idle =>
    -- the phases before and after the course leave the store as it is
    have hbefore := (works.get_of_setPhase publishing).trans <|
      (works.get_of_setPhase fetched).trans (works.of_fetchBatch fetch).2
    have hafter := (works.get_of_setPhase idle).trans (works.get_of_setPhase complete)
    rw [hafter, ← hbefore]
    exact course.rows works (hbefore ▸ hwaiting)

/-- Whether the row with the identifier of a row is pending in a store. -/
def pendingIn (s : Store) (m : Message) : Bool :=
  (s.find? m.id).any Message.isPending

/-- Whether a stored row is pending afterwards is read off its fate. -/
theorem RowsAfter.pendingIn_eq {s s' : Store} {batch : List Message} {verdicts : List Verdict}
    (h : RowsAfter batch verdicts s s') (hs : s.Sound) {m : Message} (hm : m ∈ s.messages) :
    ∃ m', pendingIn s' m = m'.isPending ∧ Verdict.Fate batch verdicts m m' := by
  obtain ⟨r, hr, rfl⟩ := List.mem_map.mp hm
  obtain ⟨r', hr', -, hfate⟩ := exists_right_of_forall₂ h.outbox hr
  have hs' : s'.Sound :=
    hs.of_rows (h.outbox.imp fun _ _ hrow => ⟨hrow.1, hrow.2.sameEvent.id⟩) h.nextSeq
  refine ⟨r'.2, ?_, hfate⟩
  rw [pendingIn, ← hfate.sameEvent.id, Store.find?_of_mem hs' (List.mem_map_of_mem hr'),
    Option.any_some]

/-- The rows of the batch that are pending afterwards are those that were not published, and those
that were left out. -/
theorem RowsAfter.countP_pendingIn {s s' : Store} {batch : List Message} {verdicts : List Verdict}
    (h : RowsAfter batch verdicts s s') (waiting : Waiting s batch)
    (hlength : verdicts.length ≤ batch.length) :
    batch.countP (pendingIn s') =
      (verdicts.countP fun v => !decide (v.outcome = .published)) +
        (batch.length - verdicts.length) := by
  refine countP_eq_of_first hlength (fun i m v hm hv => ?_) fun m hm => ?_
  · obtain ⟨m', hpending, hfate⟩ :=
      h.pendingIn_eq waiting.sound (waiting.stored m (List.mem_of_getElem? hm))
    rw [hpending, (hfate.attempted i v hm hv).isPending_eq]
  · have hbatch : m ∈ batch := List.mem_of_mem_drop hm
    obtain ⟨m', hpending, hfate⟩ := h.pendingIn_eq waiting.sound (waiting.stored m hbatch)
    -- without repetition, a row behind the reached part does not stand in that part
    have hnotMem : m ∉ batch.take verdicts.length := by
      have hnodup : (batch.take verdicts.length ++ batch.drop verdicts.length).Nodup := by
        rw [List.take_append_drop]
        exact waiting.distinct.of_map _
      exact fun htake => List.disjoint_of_nodup_append hnodup htake hm
    rw [hpending, hfate.untouched hnotMem]
    exact waiting.pending m hbatch

/-- A cycle that reports, row by row.  It attempts as many rows of its batch as there are verdicts,
from the first one on; every row is as its own verdict left it, or as it was; and the report counts
the rows. -/
structure RowByRow (cell : Cell W Store) (d : Dispatcher W κ) (w w' : W) (verdicts : List Verdict)
    (r : DispatchReport) : Prop where
  batch : d.batch w =
    ((cell.get w).eligible d.config.maxAttempts).take d.config.batchSize.toNat
  round : d.Round w (d.batch w) verdicts r w'
  rows : List.Forall₂ (fun row row' => row'.1 = row.1 ∧
    Verdict.Fate (d.batch w) verdicts row.2 row'.2) (cell.get w).outbox (cell.get w').outbox
  entities : (cell.get w').entities = (cell.get w).entities
  fetched : r.fetched = (d.batch w).length
  limit : r.fetched ≤ d.config.batchSize.toNat
  attempted : verdicts.length ≤ r.fetched
  cancelled : r.cancelled = r.fetched - verdicts.length
  counted : ∀ o, r.counted o = verdicts.countP fun v => v.outcome = o
  total : r.published + r.failed + r.skipped = verdicts.length
  stillPending : r.stillPending = (d.batch w).countP (pendingIn (cell.get w'))

/-- Whatever the store went through before, whenever the dispatcher is asked to stop, and whatever
faults are met: a cycle that reports went through its batch row by row. -/
theorem dispatchOnce_rowByRow {w : W} {r : DispatchReport} (works : d.WorksOn cell)
    (reachable : (cell.get w).Reachable) (reports : (d.dispatchOnce.run w).1 = .ok (.ok r)) :
    ∃ verdicts, d.RowByRow cell w (d.dispatchOnce.run w).2 verdicts r := by
  obtain ⟨batch, verdicts, hround⟩ := (dispatchOnce_round d w).answered reports r rfl
  -- the batch that is spoken of is the one that this round fetched
  obtain ⟨w₁, hfetch⟩ := hround.fetch_run
  obtain rfl : d.batch w = batch := batch_of_fetch (by rw [hfetch])
  have hbatch := (works.of_fetchBatch hfetch).1
  have hwaiting : Waiting (cell.get w) (d.batch w) := by
    rw [hbatch]
    exact waiting_of_fetched reachable.sound _ _
  have hrows := hround.rows works reachable.sound
  have hlength := hround.length_le
  have hreport := hround.report_eq
  have hfetched : r.fetched = (d.batch w).length := by
    rw [hreport, DispatchReport.fetched_tally]
  have hcancelled : r.cancelled = (d.batch w).length - verdicts.length := by
    rw [hreport]
    rfl
  have hcounted : ∀ o, r.counted o = verdicts.countP fun v => v.outcome = o := by
    intro o
    rw [hreport, DispatchReport.counted_tally]
    cases o <;> exact Nat.zero_add _
  have htotal : r.published + r.failed + r.skipped = verdicts.length := by
    rw [← Verdict.countP_outcomes, ← hcounted, ← hcounted, ← hcounted]
    rfl
  refine ⟨verdicts, ?_⟩
  constructor
  case batch => exact hbatch
  case round => exact hround
  case rows => exact hrows.outbox
  case entities => exact hrows.entities
  case fetched => exact hfetched
  case limit =>
    rw [hfetched, hbatch]
    exact List.length_take_le _ _
  case attempted => exact hfetched ▸ hlength
  case cancelled => rw [hcancelled, hfetched]
  case counted => exact hcounted
  case total => exact htotal
  case stillPending =>
    -- of the attempted rows, the ones that were not published are pending
    have hsplit := List.length_eq_countP_add_countP (fun v : Verdict => v.outcome = .published)
      (l := verdicts)
    have hpublished : r.published = verdicts.countP fun v => v.outcome = .published :=
      hcounted .published
    rw [hrows.countP_pendingIn hwaiting hlength, DispatchReport.stillPending, hcancelled]
    simp only [decide_eq_true_eq, decide_not] at hsplit
    omega

private def letter (e : Event Shop.Kind) : List Message :=
  (Message.ofEvent e "Item" "7" (Uuid.ofNat 9) Shop.opening).toOption.toList

/-- Rows of four events, the first one of a type that the postman does not know. -/
private def mail : ChangeSet where
  transactionId := Uuid.ofNat 9
  messages := [Shop.renamed 1, Shop.created 2, Shop.created 3, Shop.created 4].flatMap letter

private def postOffice : Shop.Desk :=
  { Shop.desk with store := ((Store.commit mail).run {}).2 }

/-- The dispatcher that publishes one event, cannot publish the next one, and then is asked to stop.
-/
private def postman : Dispatcher Shop.Desk Shop.Kind where
  outbox := Store.outboxAccess Service.storeCell
  registry := .ofList [.itemCreated]
  publish _ := Action.step fun w =>
    (if w.rest = 0 then .ok () else .error (.plain .publishFailed "road closed"),
      { w with rest := w.rest + 1 })
  config := {}
  setPhase _ := pure ()
  cancelled w := w.rest = 2
  clock _ := Shop.opening

private theorem worksOn_postman : postman.WorksOn Service.storeCell where
  fetch := fun _ _ => Action.actsAs_focus _ _
  markProcessed := fun _ _ => Action.actsAs_focus _ _
  recordFailure := fun _ _ => Action.actsAs_focus _ _
  publish := fun _ _ => .refl _
  setPhase := fun _ _ => rfl

private theorem fetchBatch_postman :
    postman.fetchBatch.run postOffice = (.ok (.ok postOffice.store.messages), postOffice) := by
  have hs : postOffice.store.Sound := (Store.Reachable.commit .empty mail).sound
  have htimes : postOffice.store.InTime := by
    unfold Store.InTime
    decide +kernel
  have hfetch : (Store.fetch 20 none).run postOffice.store =
      (.ok (.ok postOffice.store.messages), postOffice.store) := by
    rw [Store.fetch_run, Store.eligible_of_times hs htimes]
    have hall : (postOffice.store.messages.filter fun m =>
        m.isPending && !m.attemptsExhausted none).take (20 : UInt32).toNat =
          postOffice.store.messages := by decide +kernel
    rw [hall]
    rfl
  have hcell : postman.fetchBatch.run postOffice =
      (((Store.fetch 20 none).run postOffice.store).1,
        Service.storeCell.set ((Store.fetch 20 none).run postOffice.store).2 postOffice) := rfl
  rw [hcell, hfetch]
  rfl

/-- One row of each kind, and one that is left out. -/
theorem one_row_of_each_outcome :
    (postman.dispatchOnce.run postOffice).1 = .ok (.ok ⟨4, 1, 1, 1, 1⟩) ∧
    (postman.dispatchOnce.run postOffice).2.store.messages.map
      (fun m => (m.isPending, m.retryCount, m.lastError)) =
      [(true, 1, some ("[UNKNOWN_EVENT_TYPE] " ++
          "No decoder registered for event type 'item.renamed.v1'")),
        (false, 0, none), (true, 1, some "[PUBLISH_FAILED] road closed"), (true, 0, none)] ∧
    ∃ verdicts, postman.RowByRow Service.storeCell postOffice
      (postman.dispatchOnce.run postOffice).2 verdicts ⟨4, 1, 1, 1, 1⟩ := by
  have hrun : postman.dispatchOnce.run postOffice =
      (postman.handleBatch (.ok postOffice.store.messages)).run postOffice := by
    rw [dispatchOnce_eq (by decide), Action.run_bind_of_ok fetchBatch_postman]
  have hreports : (postman.dispatchOnce.run postOffice).1 = .ok (.ok ⟨4, 1, 1, 1, 1⟩) := by
    rw [hrun]
    decide +kernel
  refine ⟨hreports, ?_, dispatchOnce_rowByRow worksOn_postman (.commit .empty mail) hreports⟩
  rw [hrun]
  decide +kernel

end Dispatcher

end EventOutbox
