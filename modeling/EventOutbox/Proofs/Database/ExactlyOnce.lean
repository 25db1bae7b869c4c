import EventOutbox.Proofs.Database.Transaction
import EventOutbox.Shop
import Mathlib.Data.List.Nodup

/-!
# Work that is committed exactly once

A handler in a transaction commits its ledger row and its work together or not at all.  What a
server keeps can be read off the journal of a line: only a commit that succeeds makes the rows of
the open transaction durable.  If the server adds a ledger row exactly when the key is not
committed, then the work for a key is made durable once, together with its ledger row, however often
the event is delivered and whatever fails on the way.

## Main statement

- `Line.handled_in_one_transaction`
-/

namespace EventOutbox.Database

/-! ## §1 One delivery -/

/-- What a delivery may note, and what it answers. -/
structure Handled (key : LedgerKey) (xs : List Note) (answer : Except Failure Unit) : Prop where
  /-- The consumer is invoked exactly when the transaction has begun and the ledger row is new. -/
  invoked : .invoked key ∈ xs ↔ (∃ b, .sent .beginning (.ok b) ∈ xs) ∧
    ∃ r, .sent (insertion key) (.ok r) ∈ xs ∧ 0 < r.affected
  /-- It is invoked once, between the insertion of the ledger row and the end of the transaction,
  and executes statements only. -/
  inside : ∀ k, .invoked k ∈ xs → k = key ∧ ∃ b r statements result ending,
    xs = .sent .beginning (.ok b) :: .sent (insertion key) (.ok r) :: .invoked key ::
      (statements ++ .returned result :: ending) ∧ (∀ x ∈ statements, x.IsStatement) ∧
      ∀ x ∈ ending, ∃ reply, x = .sent .commit reply ∨ x = .sent .rollback reply
  /-- A commit is sent exactly when the consumer succeeds. -/
  committed : (∃ reply, .sent .commit reply ∈ xs) ↔ .returned (.ok ()) ∈ xs
  /-- When the ledger row is there already, nothing follows but a rollback; one that fails is
  repeated when the open transaction is dropped. -/
  skipped : ∀ r, .sent (insertion key) (.ok r) ∈ xs → r.affected = 0 → ∃ b,
    (∃ r', xs = [.sent .beginning (.ok b), .sent (insertion key) (.ok r),
      .sent .rollback (.ok r')]) ∨
    ∃ p r', xs = [.sent .beginning (.ok b), .sent (insertion key) (.ok r),
      .sent .rollback (.error p), .sent .rollback r']
  /-- The answer is that of the commit, or of the rollback when the ledger row is there already. -/
  ok : answer = .ok () ↔ (∃ r, .sent .commit (.ok r) ∈ xs) ∨ ∃ b r r', r.affected = 0 ∧
    xs = [.sent .beginning (.ok b), .sent (insertion key) (.ok r), .sent .rollback (.ok r')]

/-- A delivery that does not invoke its consumer, and finds no ledger row either. -/
theorem handled_of_unopened {key : LedgerKey} {xs : List Note} {f : Failure}
    (hxs : ∀ x ∈ xs, (∃ reply, x = .sent .beginning reply) ∨
      (∃ p, x = .sent (insertion key) (.error p)) ∨ ∃ reply, x = .sent .rollback reply) :
    Handled key xs (.error f) := by
  -- what is noted is one of three kinds, so anything else is not
  have hnot : ∀ n : Note, (∀ reply, n ≠ .sent .beginning reply) →
      (∀ p, n ≠ .sent (insertion key) (.error p)) → (∀ reply, n ≠ .sent .rollback reply) →
      n ∉ xs := by
    intro n hbeginning hinsertion hrollback hn
    rcases hxs n hn with ⟨reply, h⟩ | ⟨p, h⟩ | ⟨reply, h⟩
    · exact hbeginning reply h
    · exact hinsertion p h
    · exact hrollback reply h
  have hinvoked : ∀ k, .invoked k ∉ xs := fun k => hnot _ (by simp) (by simp) (by simp)
  have hinserted : ∀ r, .sent (insertion key) (.ok r) ∉ xs :=
    fun r => hnot _ (by simp [insertion]) (by simp) (by simp [insertion])
  have hcommit : ∀ reply, .sent .commit reply ∉ xs :=
    fun reply => hnot _ (by simp) (by simp [insertion]) (by simp)
  have hreturned : ∀ result, .returned result ∉ xs :=
    fun result => hnot _ (by simp) (by simp) (by simp)
  constructor
  case invoked => simp [hinvoked, hinserted]
  case inside => exact fun k hk => absurd hk (hinvoked k)
  case committed => simp [hcommit, hreturned]
  case skipped => exact fun r hr => absurd hr (hinserted r)
  case ok =>
    constructor
    · intro h
      cases h
    · rintro (⟨r, hr⟩ | ⟨b, r, r', -, rfl⟩)
      · exact absurd hr (hcommit _)
      · exact absurd (by simp) (hinserted r)

/-- A delivery that finds its ledger row. -/
theorem handled_of_skipped {key : LedgerKey} {b r : Reply} (hknown : r.affected = 0)
    {ending : List Note} {answer : Except Failure Unit}
    (hending : (∃ r', ending = [.sent .rollback (.ok r')] ∧ answer = .ok ()) ∨
      ∃ p r' f, ending = [.sent .rollback (.error p), .sent .rollback r'] ∧ answer = .error f) :
    Handled key (.sent .beginning (.ok b) :: .sent (insertion key) (.ok r) :: ending) answer := by
  rcases hending with ⟨r', rfl, rfl⟩ | ⟨p, r', f, rfl, rfl⟩
  · constructor
    case skipped =>
      intro r₁ hr₁ _
      obtain rfl : r₁ = r := by simpa [insertion] using hr₁
      exact ⟨b, .inl ⟨r', rfl⟩⟩
    all_goals simp [insertion, hknown]
  · constructor
    case skipped =>
      intro r₁ hr₁ _
      obtain rfl : r₁ = r := by simpa [insertion] using hr₁
      exact ⟨b, .inr ⟨p, r', rfl⟩⟩
    all_goals simp [insertion, hknown]

/-- What is no statement is not among statements. -/
theorem notMem_of_statements {xs : List Note} (h : ∀ x ∈ xs, x.IsStatement) {n : Note}
    (hn : ¬ n.IsStatement) : n ∉ xs :=
  fun hmem => hn (h n hmem)

/-- A delivery that invokes its consumer. -/
theorem handled_of_invoked {key : LedgerKey} {b r : Reply} (hnew : 0 < r.affected)
    {statements ending : List Note} (hstatements : ∀ x ∈ statements, x.IsStatement)
    {result answer : Except Failure Unit}
    (hending : ∀ x ∈ ending, ∃ reply, x = .sent .commit reply ∨ x = .sent .rollback reply)
    (hcommit : (∃ reply, .sent .commit reply ∈ ending) ↔ result = .ok ())
    (hanswer : answer = .ok () ↔ ∃ r', .sent .commit (.ok r') ∈ ending) :
    Handled key (.sent .beginning (.ok b) :: .sent (insertion key) (.ok r) :: .invoked key ::
      (statements ++ .returned result :: ending)) answer := by
  -- the notes of the delivery itself are none of the consumer's statements, so each has its one
  -- place
  have hno : ∀ n : Note, ¬ n.IsStatement → n ∉ statements := fun _ =>
    notMem_of_statements hstatements
  have hinserted : ∀ r', .sent (insertion key) (.ok r') ∉ ending := by
    intro r' hmem
    obtain ⟨reply, h | h⟩ := hending _ hmem <;> simp [insertion] at h
  have hinvoked : ∀ k, .invoked k ∉ ending := by
    intro k hmem
    obtain ⟨reply, h | h⟩ := hending _ hmem <;> simp at h
  have hreturned : ∀ result', .returned result' ∉ ending := by
    intro result' hmem
    obtain ⟨reply, h | h⟩ := hending _ hmem <;> simp at h
  constructor
  case invoked => exact ⟨fun _ => ⟨⟨b, by simp⟩, r, by simp, hnew⟩, fun _ => by simp⟩
  case inside =>
    intro k hk
    obtain rfl : k = key := by
      simpa [hinvoked, insertion, hno (.invoked k) (by simp [Note.IsStatement])] using hk
    exact ⟨rfl, b, r, statements, result, ending, rfl, hstatements, hending⟩
  case committed =>
    have hnocommit : ∀ reply, .sent .commit reply ∉ statements :=
      fun reply => hno _ (by simp [Note.IsStatement])
    have hnoreturn : .returned (.ok ()) ∉ statements := hno _ (by simp [Note.IsStatement])
    simpa [insertion, hnocommit, hnoreturn, hreturned, eq_comm] using hcommit
  case skipped =>
    intro r₁ hr₁ hnone
    have hnoinsert : .sent (insertion key) (.ok r₁) ∉ statements :=
      hno _ (by simp [Note.IsStatement, insertion])
    obtain rfl : r₁ = r := by
      simpa [hinserted, hnoinsert] using hr₁
    omega
  case ok =>
    have hnocommit : ∀ r', .sent .commit (.ok r') ∉ statements :=
      fun r' => hno _ (by simp [Note.IsStatement])
    rw [hanswer]
    simp [insertion, hnocommit]

/-- Each way through the transaction of a delivery is one of three kinds: unopened, skipped or
invoked. -/
theorem handled_of_outcome {key : LedgerKey} {xs : List Note} {answer : Except Failure Unit}
    (h : InTransaction (Working key) xs answer) : Handled key xs answer := by
  cases h with
  | unacquired f => exact handled_of_unopened (by simp)
  | unbegun p r f => exact handled_of_unopened (by simp)
  | failed b r hwork =>
    cases hwork with
    | unrecorded p f => exact handled_of_unopened (by simp)
    | failed _ hnew hxs =>
      rw [List.cons_append, List.cons_append, List.append_assoc]
      exact handled_of_invoked hnew hxs (by simp) (by simp) (by simp)
  | ended b r hwork =>
    cases hwork with
    | skipped hknown => exact handled_of_skipped hknown (.inl ⟨r, rfl, rfl⟩)
    | done hnew hxs =>
      rw [List.cons_append, List.cons_append, List.append_assoc]
      refine handled_of_invoked hnew hxs ?_ ?_ ?_ <;> simp [Pool.Ending.request]
  | unended b p r f hwork =>
    cases hwork with
    | skipped hknown => exact handled_of_skipped hknown (.inr ⟨p, r, f, rfl, rfl⟩)
    | done hnew hxs =>
      rw [List.cons_append, List.cons_append, List.append_assoc]
      refine handled_of_invoked hnew hxs ?_ ?_ ?_ <;> simp [Pool.Ending.request]

/-! ## §2 What a server keeps -/

/-- Ledger rows, and the work of consumers under their keys: the statements that were executed. -/
structure Tables where
  ledger : List LedgerKey := []
  work : List (LedgerKey × List Statement) := []

/-- A statement belongs to the work of the consumer that was invoked last. -/
def Tables.execute (s : Statement) (t : Tables) : Tables :=
  match t.work with
  | [] => t
  | (key, statements) :: earlier => { t with work := (key, statements ++ [s]) :: earlier }

/-- What a server keeps for good, and what it keeps if the open transaction is committed. -/
structure Books where
  durable : Tables := {}
  pending : Tables := {}

/-- What a note means for a server: only a commit that succeeds makes anything durable. -/
def Books.enter (b : Books) : Note → Books
  | .sent .beginning (.ok _) => { b with pending := {} }
  | .sent (.statement (.insertConsumer id consumer)) (.ok r) =>
    if r.affected = 0 then b
    else { b with pending := { b.pending with ledger := (id, consumer) :: b.pending.ledger } }
  | .invoked key => { b with pending := { b.pending with work := (key, []) :: b.pending.work } }
  | .sent (.statement s) (.ok _) => { b with pending := b.pending.execute s }
  | .sent .commit (.ok _) =>
    { durable :=
        { ledger := b.pending.ledger ++ b.durable.ledger
          work := b.pending.work ++ b.durable.work }
      pending := {} }
  | .sent .rollback _ => { b with pending := {} }
  | _ => b

/-- Whether a reply fits the ledger table: an insertion adds one row exactly when the key is not
committed. -/
def Books.fits (b : Books) : Note → Bool
  | .sent (.statement (.insertConsumer id consumer)) (.ok r) =>
    r.affected = if (id, consumer) ∈ b.durable.ledger then 0 else 1
  | _ => true

/-- Whether all replies fit the ledger table. -/
def Books.honest : Books → List Note → Bool
  | _, [] => true
  | b, n :: ns => b.fits n && (b.enter n).honest ns

namespace Books

/-- Replies that fit all fit in both parts, and the second part is judged by what the first one made
of the books. -/
theorem honest_append {b : Books} {xs ys : List Note} (h : b.honest (xs ++ ys) = true) :
    b.honest xs = true ∧ (xs.foldl enter b).honest ys = true := by
  induction xs generalizing b with
  | nil => exact ⟨rfl, h⟩
  | cons n ns ih =>
    simp only [List.cons_append, honest, Bool.and_eq_true] at h ⊢
    obtain ⟨hns, hys⟩ := ih h.2
    exact ⟨⟨h.1, hns⟩, hys⟩

/-- Work is kept with its ledger row, and only once. -/
structure Balanced (b : Books) : Prop where
  together : b.durable.work.map Prod.fst = b.durable.ledger
  once : b.durable.ledger.Nodup

/-- A statement changes the work of an open transaction, but not whose it is. -/
theorem execute_eq (s : Statement) (t : Tables) : ∃ work, t.execute s = ⟨t.ledger, work⟩ ∧
    work.map Prod.fst = t.work.map Prod.fst := by
  obtain ⟨ledger, _ | ⟨⟨key, statements⟩, earlier⟩⟩ := t
  · exact ⟨[], rfl, rfl⟩
  · exact ⟨(key, statements ++ [s]) :: earlier, rfl, rfl⟩

/-- Statements go to the work of the open transaction. -/
theorem foldl_statements {xs : List Note} (h : ∀ x ∈ xs, x.IsStatement) (b : Books) :
    ∃ work, xs.foldl enter b = ⟨b.durable, ⟨b.pending.ledger, work⟩⟩ ∧
      work.map Prod.fst = b.pending.work.map Prod.fst := by
  induction xs generalizing b with
  | nil => exact ⟨b.pending.work, rfl, rfl⟩
  | cons n ns ih =>
    obtain ⟨⟨sql, parameters, reply, rfl⟩, hns⟩ := List.forall_mem_cons.mp h
    -- a statement that failed left nothing behind
    rcases reply with p | r
    · exact ih hns b
    · obtain ⟨work, hwork, hsame⟩ := execute_eq (.other sql parameters) b.pending
      obtain ⟨work', hwork', hsame'⟩ := ih hns ⟨b.durable, ⟨b.pending.ledger, work⟩⟩
      have henter : b.enter (.sent (.statement (.other sql parameters)) (.ok r)) =
          ⟨b.durable, b.pending.execute (.other sql parameters)⟩ := rfl
      refine ⟨work', ?_, hsame'.trans hsame⟩
      rw [List.foldl_cons, henter, hwork, hwork']

/-- Without a commit that succeeds, nothing becomes durable. -/
theorem durable_enter {b : Books} {n : Note} (h : ∀ r, n ≠ .sent .commit (.ok r)) :
    (b.enter n).durable = b.durable := by
  unfold enter
  split
  case h_5 r => exact absurd rfl (h r)
  case h_2 => split <;> rfl
  all_goals rfl

/-- Notes without a commit that succeeds make nothing durable. -/
theorem durable_foldl {xs : List Note} (h : ∀ r, .sent .commit (.ok r) ∉ xs) (b : Books) :
    (xs.foldl enter b).durable = b.durable := by
  induction xs generalizing b with
  | nil => rfl
  | cons n ns ih =>
    rw [List.foldl_cons, ih fun r hr => h r (List.mem_cons_of_mem _ hr)]
    exact durable_enter fun r hr => h r (hr ▸ List.mem_cons_self)

/-- How the books stand after a delivery: what is durable stays as it was, and the ledger row was
there before if the delivery succeeded; or the ledger row and its work are new. -/
inductive Settled (key : LedgerKey) (b b' : Books) (answer : Except Failure Unit) : Prop where
  | same (durable : b'.durable = b.durable) (known : answer = .ok () → key ∈ b.durable.ledger)
  | kept (statements : List Statement) (new : key ∉ b.durable.ledger)
      (durable : b'.durable = ⟨key :: b.durable.ledger, (key, statements) :: b.durable.work⟩)

/-- At the beginning of a transaction, an insertion that adds no row is about a committed key, and
one that adds a row is not. -/
theorem affected_eq_zero_iff {b : Books} {key : LedgerKey} {begun r : Reply} {xs : List Note}
    (h : b.honest (.sent .beginning (.ok begun) :: .sent (insertion key) (.ok r) :: xs) = true) :
    r.affected = 0 ↔ key ∈ b.durable.ledger := by
  simp only [honest, Bool.and_eq_true] at h
  -- beginning a transaction makes nothing durable
  have hfits : r.affected = if key ∈ b.durable.ledger then 0 else 1 := of_decide_eq_true h.2.1
  rw [hfits]
  by_cases hkey : key ∈ b.durable.ledger
  · rw [if_pos hkey, eq_self, true_iff]
    exact hkey
  · rw [if_neg hkey]
    exact iff_of_false Nat.one_ne_zero hkey

/-- The ledger row and the work of a transaction that is committed. -/
theorem foldl_kept {key : LedgerKey} {i : Reply} (hnew : 0 < i.affected) {xs : List Note}
    (hxs : ∀ x ∈ xs, x.IsStatement) (b : Books) (begun committed : Reply) :
    ∃ statements, (List.foldl enter b (.sent .beginning (.ok begun) ::
        .sent (insertion key) (.ok i) :: .invoked key ::
          (xs ++ [.returned (.ok ()), .sent .commit (.ok committed)]))).durable =
      ⟨key :: b.durable.ledger, (key, statements) :: b.durable.work⟩ := by
  -- the transaction holds the ledger row and an empty work when the consumer is invoked
  have hinvoked : ((b.enter (.sent .beginning (.ok begun))).enter
      (.sent (insertion key) (.ok i))).enter (.invoked key) =
        ⟨b.durable, ⟨[key], [(key, [])]⟩⟩ := by
    have hinsert : ∀ c : Books, c.enter (.sent (insertion key) (.ok i)) =
        ⟨c.durable, ⟨key :: c.pending.ledger, c.pending.work⟩⟩ :=
      fun c => if_neg (Nat.ne_of_gt hnew)
    rw [hinsert]
    rfl
  obtain ⟨work, hwork, hkeys⟩ := foldl_statements hxs ⟨b.durable, ⟨[key], [(key, [])]⟩⟩
  obtain ⟨⟨key', statements⟩, hsingle, hkey⟩ := List.map_eq_singleton_iff.mp hkeys
  dsimp only at hkey
  subst hkey
  refine ⟨statements, ?_⟩
  rw [List.foldl_cons, List.foldl_cons, List.foldl_cons, hinvoked, List.foldl_append, hwork,
    hsingle]
  rfl

/-- Every way through the transaction settles the books. -/
theorem settled_of_outcome {key : LedgerKey} {xs : List Note} {answer : Except Failure Unit}
    (h : InTransaction (Working key) xs answer) {b : Books} (hhonest : b.honest xs = true) :
    Settled key b (xs.foldl enter b) answer := by
  -- only the commit of a new ledger row makes anything durable
  cases h with
  | unacquired f => exact .same rfl nofun
  | unbegun p r f => exact .same rfl nofun
  | failed begun r hwork =>
    refine .same (durable_foldl ?_ b) nofun
    cases hwork with
    | unrecorded p f => simp [insertion]
    | @failed i ys _ _ hxs =>
      intro committed
      have hno : Note.sent .commit (.ok committed) ∉ ys :=
        notMem_of_statements hxs (by simp [Note.IsStatement])
      simp [hno, insertion]
  | ended begun r hwork =>
    cases hwork with
    | skipped hknown =>
      refine .same (durable_foldl (by simp [Pool.Ending.request, insertion]) b) fun _ => ?_
      exact (affected_eq_zero_iff hhonest).mp hknown
    | @done i ys hnew hxs =>
      have hnot : key ∉ b.durable.ledger :=
        (affected_eq_zero_iff hhonest).not.mp (Nat.ne_of_gt hnew)
      obtain ⟨statements, hdurable⟩ := foldl_kept hnew hxs b begun r
      refine .kept statements hnot ?_
      rw [List.cons_append, List.cons_append, List.append_assoc]
      exact hdurable
  | unended begun p r f hwork =>
    refine .same (durable_foldl ?_ b) nofun
    cases hwork with
    | skipped hknown => simp [Pool.Ending.request, insertion]
    | @done i ys _ hxs =>
      intro committed
      have hno : Note.sent .commit (.ok committed) ∉ ys :=
        notMem_of_statements hxs (by simp [Note.IsStatement])
      simp [hno, Pool.Ending.request, insertion]

/-- Settling keeps work and ledger rows together, and each key once. -/
theorem Settled.balanced {key : LedgerKey} {b b' : Books} {answer : Except Failure Unit}
    (h : Settled key b b' answer) (hb : b.Balanced) : b'.Balanced := by
  cases h with
  | same durable => exact ⟨by rw [durable]; exact hb.together, by rw [durable]; exact hb.once⟩
  | kept statements new durable =>
    constructor
    · rw [durable, List.map_cons, hb.together]
    · rw [durable]
      exact List.nodup_cons.mpr ⟨new, hb.once⟩

/-- Settling takes no ledger row away. -/
theorem Settled.subset {key : LedgerKey} {b b' : Books} {answer : Except Failure Unit}
    (h : Settled key b b' answer) : b.durable.ledger ⊆ b'.durable.ledger := by
  cases h with
  | same durable => rw [durable]; exact List.Subset.refl _
  | kept statements new durable => rw [durable]; exact List.subset_cons_self _ _

/-- After a delivery that succeeded the ledger has its row. -/
theorem Settled.recorded {key : LedgerKey} {b b' : Books} (h : Settled key b b' (.ok ())) :
    key ∈ b'.durable.ledger := by
  cases h with
  | same durable known => rw [durable]; exact known rfl
  | kept statements new durable => rw [durable]; exact List.mem_cons_self

end Books

/-! ## §3 Deliveries one after the other -/

namespace Line

variable {κ : Type} [EventCatalog κ] {S : Type} {take : S → Except Problem Unit × S}
  {serve : Request → S → Except Problem Reply × S}

/-- Deliveries in two parts are deliveries in a row. -/
theorem afterAll_append (w : Line S) (ds es : List (Delivery κ)) :
    afterAll take serve w (ds ++ es) = afterAll take serve (afterAll take serve w ds) es :=
  List.foldl_append

/-- Deliveries only add to the journal. -/
theorem afterAll_journal (take : S → Except Problem Unit × S)
    (serve : Request → S → Except Problem Reply × S) (w : Line S) (ds : List (Delivery κ)) :
    ∃ xs, (afterAll take serve w ds).journal = w.journal ++ xs := by
  induction ds generalizing w with
  | nil => exact ⟨[], (List.append_nil _).symm⟩
  | cons d ds ih =>
    obtain ⟨xs, _, -, -, hjournal⟩ := deliver_outcome take serve d w
    obtain ⟨ys, hys⟩ := ih (after take serve w d)
    exact ⟨xs ++ ys, by rw [← List.append_assoc, ← hjournal]; exact hys⟩

/-- The books of a line. -/
def books (w : Line S) : Books :=
  w.journal.foldl Books.enter {}

/-- All replies on a line fit the ledger table, which is empty at first. -/
def Honest (w : Line S) : Prop :=
  Books.honest {} w.journal = true

/-- What fits after more deliveries fitted before them. -/
theorem Honest.before {w : Line S} (ds : List (Delivery κ))
    (h : (afterAll take serve w ds).Honest) : w.Honest := by
  obtain ⟨xs, hxs⟩ := afterAll_journal take serve w ds
  rw [Honest, hxs] at h
  exact (Books.honest_append h).1

/-- The books are settled by one delivery. -/
theorem Honest.settled {w : Line S} {d : Delivery κ} (h : (after take serve w d).Honest) :
    ∃ answer, (deliver take serve d).run w = (.ok answer, after take serve w d) ∧
      w.books.Settled d.key (after take serve w d).books answer := by
  obtain ⟨xs, answer, houtcome, hrun, hjournal⟩ := deliver_outcome take serve d w
  rw [Honest, hjournal] at h
  refine ⟨answer, hrun, ?_⟩
  rw [books, books, hjournal, List.foldl_append]
  exact Books.settled_of_outcome houtcome (Books.honest_append h).2

/-- Several deliveries keep the books balanced, and what is durable stays so. -/
theorem Honest.balanced {w : Line S} (ds : List (Delivery κ))
    (h : (afterAll take serve w ds).Honest) (hw : w.books.Balanced) :
    (afterAll take serve w ds).books.Balanced ∧
      w.books.durable.ledger ⊆ (afterAll take serve w ds).books.durable.ledger := by
  -- on the deliveries: each settles the books, from which the others go on
  induction ds generalizing w with
  | nil => exact ⟨hw, List.Subset.refl _⟩
  | cons d ds ih =>
    obtain ⟨_, -, hsettled⟩ := Honest.settled (Honest.before ds h)
    obtain ⟨hbalanced, hsubset⟩ := ih h (hsettled.balanced hw)
    exact ⟨hbalanced, List.Subset.trans hsettled.subset hsubset⟩

/-- After deliveries to a server with an empty ledger table, the work for each key is durable at
most once, and exactly when its ledger row is; and every delivery that succeeded left it durable. -/
structure KeepsWork (take : S → Except Problem Unit × S)
    (serve : Request → S → Except Problem Reply × S) (server : S) (ds : List (Delivery κ)) :
    Prop where
  once : ∀ key,
    ((afterAll take serve ⟨server, []⟩ ds).books.durable.work.map Prod.fst).count key ≤ 1
  together : ∀ key,
    key ∈ (afterAll take serve ⟨server, []⟩ ds).books.durable.work.map Prod.fst ↔
      key ∈ (afterAll take serve ⟨server, []⟩ ds).books.durable.ledger
  answered : ∀ before d later, ds = before ++ d :: later →
    ((deliver take serve d).run (afterAll take serve ⟨server, []⟩ before)).1 = .ok (.ok ()) →
    d.key ∈ (afterAll take serve ⟨server, []⟩ ds).books.durable.work.map Prod.fst

/-- The ledger row and the work of a consumer are committed together or not at all, whatever the
server replies and the consumer answers.  So if an insertion adds one row exactly when the key is
not committed, the work for a key is made durable at most once over any deliveries. -/
theorem handled_in_one_transaction (take : S → Except Problem Unit × S)
    (serve : Request → S → Except Problem Reply × S) :
    (∀ (w : Line S) (d : Delivery κ), ∃ xs answer,
      (deliver take serve d).run w = (.ok answer, after take serve w d) ∧
      (after take serve w d).journal = w.journal ++ xs ∧ Handled d.key xs answer) ∧
    ∀ (server : S) (ds : List (Delivery κ)), (afterAll take serve ⟨server, []⟩ ds).Honest →
      KeepsWork take serve server ds := by
  refine ⟨fun w d => ?_, fun server ds hhonest => ?_⟩
  · obtain ⟨xs, answer, houtcome, hrun, hjournal⟩ := deliver_outcome take serve d w
    exact ⟨xs, answer, hrun, hjournal, handled_of_outcome houtcome⟩
  have hempty : (books (S := S) ⟨server, []⟩).Balanced := ⟨rfl, List.nodup_nil⟩
  obtain ⟨hbalanced, -⟩ := Honest.balanced ds hhonest hempty
  constructor
  case once =>
    intro key
    rw [hbalanced.together]
    exact List.nodup_iff_count_le_one.mp hbalanced.once key
  case together =>
    intro key
    rw [hbalanced.together]
  case answered =>
    rintro before d later rfl hok
    rw [afterAll_append] at hhonest hbalanced ⊢
    rw [hbalanced.together]
    -- the ledger row is there right after the delivery, and stays
    have hafter := Honest.before later hhonest
    obtain ⟨answer, hrun, hsettled⟩ := Honest.settled hafter
    rw [hrun] at hok
    obtain rfl : answer = .ok () := by simpa using hok
    obtain ⟨hbefore, -⟩ := Honest.balanced before (Honest.before [d] hafter) hempty
    obtain ⟨-, hsubset⟩ := Honest.balanced later hhonest (hsettled.balanced hbefore)
    exact hsubset hsettled.recorded

/-- A server that gives the replies of a list. -/
def scripted (_ : Request) :
    List (Except Problem Reply) → Except Problem Reply × List (Except Problem Reply)
  | [] => (.error .poolClosed, [])
  | reply :: replies => (reply, replies)

/-- The first commit fails, the second succeeds, and the third delivery finds the ledger row: the
work is durable once. -/
theorem third_delivery_finds_ledger_row :
    let d : Delivery Shop.Kind := ⟨.itemCreated, (Shop.created 1).body, "Writer",
      fun _ => .execute "UPDATE stock SET items = items + 1" [] fun _ => .finish (.ok ())⟩
    let replies : List (Except Problem Reply) :=
      [.ok {}, .ok { affected := 1 }, .ok { affected := 1 }, .error .workerCrashed, .ok {},
        .ok {}, .ok { affected := 1 }, .ok { affected := 1 }, .ok {},
        .ok {}, .ok {}, .ok {}]
    let take := fun s => (Except.ok (), s)
    let work := (afterAll take scripted ⟨replies, []⟩ [d, d, d]).books.durable.work
    (afterAll take scripted ⟨replies, []⟩ [d, d, d]).Honest ∧
      ((deliver take scripted d).run (afterAll take scripted ⟨replies, []⟩ [d, d])).1 =
        .ok (.ok ()) ∧
      d.key ∈ work.map Prod.fst ∧ (work.map Prod.fst).count d.key ≤ 1 := by
  intro d replies take work
  have hhonest : (afterAll take scripted ⟨replies, []⟩ [d, d, d]).Honest := by
    show Books.honest {} _ = true
    decide +kernel
  have hok : ((deliver take scripted d).run (afterAll take scripted ⟨replies, []⟩ [d, d])).1 =
      .ok (.ok ()) := rfl
  have hkeeps : KeepsWork take scripted replies [d, d, d] :=
    (handled_in_one_transaction take scripted).2 replies [d, d, d] hhonest
  exact ⟨hhonest, hok, hkeeps.answered [d, d] d [] rfl hok, hkeeps.once d.key⟩

end Line

end EventOutbox.Database
