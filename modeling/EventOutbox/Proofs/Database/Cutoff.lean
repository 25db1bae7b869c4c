import EventOutbox.Database.Store
import EventOutbox.Proofs.ActionLogic
import EventOutbox.Proofs.Store.Order
import EventOutbox.Proofs.Store.Reachable
import EventOutbox.Shop

/-!
# The cutoff of attempts in a database

Which outbox rows a database offers for delivery.  The condition of the statement that reads them is
taken apart here, with its text and with its truth for a row, and what it says is compared with the
rows that a store in memory offers.

A limit of attempts is a number without sign, and the column that counts failed attempts holds
numbers with a sign.  A limit beyond the greatest number of the column is sent as that number.  No
count of the column comes up to such a limit, and yet a row with the greatest count is left out,
because this count is not less than what is sent.  Everywhere else both stores draw the line at the
same place.

## Main statements

- `Statement.text_fetchMessages`: the condition is the one of the statement.
- `offers_eq`, `truth_attemptsLeft`: when a row meets the condition.
- `fetch_cutoff`: where both stores offer the same rows, and where they do not.
-/

namespace EventOutbox.Database

/-! ## §1 Conditions -/

/-- What a condition looks at. -/
inductive Operand where
  | column (name : String)
  /-- A parameter, with its type where the text declares one. -/
  | parameter (number : Nat) (declared : Option String)

/-- A condition on the rows of a table. -/
inductive Condition where
  | isNull (x : Operand)
  | less (x y : Operand)
  | and (p q : Condition)
  | or (p q : Condition)

/-- The text of an operand. -/
def Operand.text : Operand → String
  | .column name => name
  | .parameter number declared => "$" ++ toString number ++ declared.elim "" ("::" ++ ·)

/-- The text of a condition. -/
def Condition.text : Condition → String
  | .isNull x => x.text ++ " IS NULL"
  | .less x y => x.text ++ " < " ++ y.text
  | .and p q => p.text ++ " AND " ++ q.text
  | .or p q => "(" ++ p.text ++ " OR " ++ q.text ++ ")"

/-- The value of an operand for a row. -/
def Operand.value (parameters : List Value) (r : Row) : Operand → Value
  | .column name => (r.lookup name).getD .null
  | .parameter number _ => (parameters[number - 1]?).getD .null

/-- Whether a number is less than another one; unknown when either is missing. -/
def Value.less? : Value → Value → Option Bool
  | .integer a, .integer b => some (a < b)
  | _, _ => none

/-- The truth of a condition for a row; it may be unknown. -/
def Condition.truth (parameters : List Value) (r : Row) : Condition → Option Bool
  | .isNull x => some (x.value parameters r = .null)
  | .less x y => (x.value parameters r).less? (y.value parameters r)
  | .and p q =>
    match p.truth parameters r, q.truth parameters r with
    | some false, _ | _, some false => some false
    | some true, some true => some true
    | _, _ => none
  | .or p q =>
    match p.truth parameters r, q.truth parameters r with
    | some true, _ | _, some true => some true
    | some false, some false => some false
    | _, _ => none

/-! ## §2 The statement -/

/-- The part of the condition that is about attempts. -/
def attemptsLeft : Condition :=
  .or (.isNull (.parameter 2 (some "INTEGER"))) (.less (.column "retry_count") (.parameter 2 none))

/-- The condition on the rows that are read for delivery. -/
def deliverable : Condition :=
  .and (.isNull (.column "processed_at")) attemptsLeft

/-- This is the condition of the statement. -/
theorem Statement.text_fetchMessages (limit : Int) (most : Option Int) :
    (fetchMessages limit most).text =
      "SELECT id, event_type, payload, aggregate_type, aggregate_id, transaction_id, " ++
      "created_at, processed_at, retry_count, last_error FROM outbox_messages WHERE " ++
      deliverable.text ++ " ORDER BY created_at, seq LIMIT $1" := by
  show
    "SELECT id, event_type, payload, aggregate_type, aggregate_id, transaction_id, created_at, " ++
      "processed_at, retry_count, last_error FROM outbox_messages WHERE processed_at IS NULL " ++
      "AND ($2::INTEGER IS NULL OR retry_count < $2) ORDER BY created_at, seq LIMIT $1" = _
  decide +kernel

/-- The columns of an outbox row. -/
def rowOf (m : Message) : Row :=
  [("id", .uuid m.id), ("event_type", .text m.eventType), ("payload", .json m.payload),
    ("aggregate_type", .text m.aggregateType), ("aggregate_id", .text m.aggregateId),
    ("transaction_id", .uuid m.transactionId), ("created_at", .instant m.createdAt),
    ("processed_at", m.processedAt.elim .null .instant),
    ("retry_count", .integer m.retryCount.toNat), ("last_error", m.lastError.elim .null .text)]

/-- An outbox row is read back from its columns. -/
theorem readMessage_rowOf (m : Message) : readMessage (rowOf m) = .ok m := by
  have hread : readMessage (rowOf m) =
      .ok { m with retryCount := countOf m.retryCount.toNat } := by
    obtain ⟨_, _, _, _, _, _, _, processedAt, _, lastError⟩ := m
    cases processedAt <;> cases lastError <;> rfl
  have hcount : countOf m.retryCount.toNat = m.retryCount := UInt32.ofNat_toNat
  rw [hread, hcount]

/-! ## §3 The line that is drawn -/

/-- The values that are sent with a limit of attempts. -/
def sent (limit : UInt32) (most : Option UInt32) : List Value :=
  (Statement.fetchMessages limit.toNat (most.map attemptsValue)).parameters

/-- Whether a row has attempts left, for the database. -/
def hasAttempts (limit : UInt32) (most : Option UInt32) (m : Message) : Bool :=
  attemptsLeft.truth (sent limit most) (rowOf m) = some true

/-- Whether the database offers a row for delivery. -/
def offers (limit : UInt32) (most : Option UInt32) (m : Message) : Bool :=
  deliverable.truth (sent limit most) (rowOf m) = some true

/-- Whether the limit of attempts is beyond the column that counts them, and the count of the row is
the greatest of the column. -/
def overlooked (most : Option UInt32) (m : Message) : Bool :=
  m.retryCount.toNat = maxInteger && most.any fun k => maxInteger < k.toNat

variable {limit : UInt32} {most : Option UInt32} {m : Message}

/-- Whether there are attempts left is never unknown, and it is compared with a limit that is not
above the numbers of the column. -/
theorem truth_attemptsLeft (limit : UInt32) (most : Option UInt32) (m : Message) :
    attemptsLeft.truth (sent limit most) (rowOf m) =
      some (most.all fun k => m.retryCount.toNat < min k.toNat maxInteger) := by
  cases most with
  | none => rfl
  | some k =>
    have hless : (Condition.less (.column "retry_count") (.parameter 2 none)).truth
        (sent limit (some k)) (rowOf m) =
          some (decide (m.retryCount.toNat < min k.toNat maxInteger)) :=
      -- the numbers of the column are those of the row, so that both comparisons are one
      congrArg some (decide_eq_decide.mpr Int.ofNat_lt)
    have hgiven : (Condition.isNull (.parameter 2 (some "INTEGER"))).truth
        (sent limit (some k)) (rowOf m) = some false := rfl
    rw [attemptsLeft, Condition.truth, hless, hgiven, Option.all_some]
    cases decide (m.retryCount.toNat < min k.toNat maxInteger) <;> rfl

/-- A row has attempts left for the database when its count is below a limit cut to the column. -/
theorem hasAttempts_eq_true_iff : hasAttempts limit most m = true ↔
    ∀ k, most = some k → m.retryCount.toNat < min k.toNat maxInteger := by
  rw [hasAttempts, truth_attemptsLeft]
  cases most <;> simp

/-- A row has attempts left for the store in memory when its count is below the limit. -/
theorem attemptsExhausted_eq_false_iff : m.attemptsExhausted most = false ↔
    ∀ k, most = some k → m.retryCount.toNat < k.toNat := by
  cases most with
  | none => simp [Message.attemptsExhausted]
  | some k => simp [Message.attemptsExhausted, UInt32.lt_iff_toNat_lt]

/-- The database offers the pending rows that have attempts left. -/
theorem offers_eq (limit : UInt32) (most : Option UInt32) (m : Message) :
    offers limit most m = (m.isPending && hasAttempts limit most m) := by
  have hpending : (Condition.isNull (.column "processed_at")).truth (sent limit most) (rowOf m) =
      some m.isPending := by
    have hvalue : (Operand.column "processed_at").value (sent limit most) (rowOf m) =
        m.processedAt.elim .null .instant := rfl
    rw [Condition.truth, hvalue, Message.isPending]
    cases m.processedAt <;> rfl
  rw [offers, deliverable, Condition.truth, hpending, hasAttempts, truth_attemptsLeft]
  cases m.isPending <;>
    cases most.all fun k => decide (m.retryCount.toNat < min k.toNat maxInteger) <;> rfl

/-- A row of the column has attempts left for the database just when it has attempts left, unless it
is overlooked. -/
theorem hasAttempts_eq_of_column (hcolumn : m.retryCount.toNat ≤ maxInteger) :
    hasAttempts limit most m = (!m.attemptsExhausted most && !overlooked most m) := by
  rw [Bool.eq_iff_iff, hasAttempts_eq_true_iff, Bool.and_eq_true, Bool.not_eq_true',
    attemptsExhausted_eq_false_iff]
  cases most with
  | none => simp [overlooked]
  | some k =>
    simp only [Option.some.injEq, forall_eq', overlooked, Option.any_some, Bool.not_eq_true',
      Bool.and_eq_false_iff, decide_eq_false_iff_not]
    omega

/-- Only rows with attempts left are overlooked. -/
theorem attemptsExhausted_of_overlooked (h : overlooked most m = true) :
    m.attemptsExhausted most = false := by
  rw [attemptsExhausted_eq_false_iff]
  rintro k rfl
  simp only [overlooked, Option.any_some, Bool.and_eq_true, decide_eq_true_eq] at h
  omega

/-- For a row of the column the two agree unless it is overlooked. -/
theorem hasAttempts_iff_of_column (hcolumn : m.retryCount.toNat ≤ maxInteger) :
    (hasAttempts limit most m = true ↔ m.attemptsExhausted most = false) ↔
      overlooked most m = false := by
  have hexhausted : overlooked most m = true → m.attemptsExhausted most = false :=
    attemptsExhausted_of_overlooked
  rw [hasAttempts_eq_of_column hcolumn]
  cases hover : overlooked most m <;> simp_all

/-! ## §4 Fetching -/

/-- The rows with their numbers that the statement reads: those that meet its condition, in the
order that it asks for, up to its limit. -/
def selected (limit : UInt32) (most : Option UInt32) (rows : List (Nat × Message)) :
    List (Nat × Message) :=
  ((rows.filter fun r => offers limit most r.2).mergeSort Store.fetchedBefore).take limit.toNat

variable {W : Type}

/-- The server executes the statement of a fetch on rows with their numbers. -/
def Executes (pool : Pool W) (limit : UInt32) (most : Option UInt32)
    (rows : List (Nat × Message)) (w w' : W) : Prop :=
  ∃ affected,
    (pool.execute (.fetchMessages limit.toNat (most.map attemptsValue))).run w =
      (.ok (.ok ⟨affected, (selected limit most rows).map fun r => rowOf r.2⟩), w')

/-- Rows are read back as they were sent. -/
theorem mapM_readMessage (rows : List (Nat × Message)) :
    (rows.map fun r => rowOf r.2).mapM readMessage = .ok (rows.map Prod.snd) := by
  induction rows with
  | nil => rfl
  | cons r rows ih =>
    rw [List.map_cons, List.mapM_cons, readMessage_rowOf, ih]
    rfl

/-- A fetch answers with the rows that the server reads. -/
theorem fetch_run {pool : Pool W} {rows : List (Nat × Message)} {w w' : W}
    (h : Executes pool limit most rows w w') :
    (fetch pool limit most).run w =
      (.ok (.ok ((selected limit most rows).map Prod.snd)), w') := by
  obtain ⟨affected, hrun⟩ := h
  rw [fetch, Action.run_bind_of_ok hrun]
  simp only [mapM_readMessage]
  rfl

/-- The rows that are read are the oldest of those that a store in memory offers and the database
does not overlook. -/
theorem selected_eq {s : Store} (hs : s.Sound)
    (hcolumn : ∀ m ∈ s.messages, m.retryCount.toNat ≤ maxInteger) :
    selected limit most s.outbox =
      ((s.eligibleRows most).filter fun r => !overlooked most r.2).take limit.toNat := by
  -- what the database offers is what the store in memory offers, with the overlooked rows taken out
  have hoffers : s.outbox.filter (fun r => offers limit most r.2) =
      (s.outbox.filter fun r => r.2.isPending && !r.2.attemptsExhausted most).filter
        fun r => !overlooked most r.2 := by
    rw [List.filter_filter]
    refine List.filter_congr fun r hr => ?_
    rw [offers_eq, hasAttempts_eq_of_column (hcolumn r.2 (List.mem_map_of_mem hr)),
      ← Bool.and_assoc, Bool.and_comm]
  have hperm : ((s.outbox.filter fun r => offers limit most r.2).mergeSort
      Store.fetchedBefore).Perm ((s.eligibleRows most).filter fun r => !overlooked most r.2) := by
    rw [hoffers]
    exact (List.mergeSort_perm _ _).trans ((List.mergeSort_perm _ _).symm.filter _)
  have hstored : ∀ r ∈ (s.eligibleRows most).filter (fun r => !overlooked most r.2),
      r ∈ s.outbox := fun r hr => (Store.mem_eligibleRows_iff.mp (List.mem_of_mem_filter hr)).1
  -- both lists have the same rows and are sorted
  exact congrArg (List.take limit.toNat) <| hs.eq_of_perm_of_sorted hperm hstored
    (List.pairwise_mergeSort Store.fetchedBefore_trans Store.fetchedBefore_total _)
    ((s.pairwise_eligibleRows most).sublist List.filter_sublist)

/-- The statement of a fetch selects by the condition that is taken apart here.  Where the counts of
a store fit the column, the database draws the line at the same place as the store in memory, except
at the rows that it overlooks.  A fetch from a server that executes the statement answers with what
a fetch from memory would answer with if these rows were not there. -/
theorem fetch_cutoff {s : Store} (hs : s.Sound)
    (hcolumn : ∀ m ∈ s.messages, m.retryCount.toNat ≤ maxInteger) (limit : UInt32)
    (most : Option UInt32) :
    (Statement.fetchMessages limit.toNat (most.map attemptsValue)).text =
      "SELECT id, event_type, payload, aggregate_type, aggregate_id, transaction_id, " ++
      "created_at, processed_at, retry_count, last_error FROM outbox_messages WHERE " ++
      deliverable.text ++ " ORDER BY created_at, seq LIMIT $1" ∧
    (∀ m : Message, m.retryCount.toNat ≤ maxInteger →
      ((hasAttempts limit most m = true ↔ m.attemptsExhausted most = false) ↔
        overlooked most m = false)) ∧
    (∀ m ∈ s.messages, offers limit most m = true ↔
      m ∈ s.eligible most ∧ overlooked most m = false) ∧
    ∀ (W : Type) (pool : Pool W) (w w' : W), Executes pool limit most s.outbox w w' →
      (fetch pool limit most).run w =
        (.ok (.ok (((s.eligible most).filter fun m => !overlooked most m).take limit.toNat)),
          w') := by
  refine ⟨Statement.text_fetchMessages _ _, fun m hm => hasAttempts_iff_of_column hm,
    fun m hm => ?_, fun W pool w w' h => ?_⟩
  · rw [offers_eq, hasAttempts_eq_of_column (hcolumn m hm), Store.mem_eligible_iff]
    simp [hm, and_assoc]
  · rw [fetch_run h, selected_eq hs hcolumn, Store.eligible_eq_map, List.filter_map,
      ← List.map_take]
    rfl

/-- A row that failed as often as given. -/
private def worn (n : Nat) (retryCount : UInt32) : Message :=
  { id := Uuid.ofNat n, eventType := "item.created.v1", payload := .null, aggregateType := "Item"
    aggregateId := "7", transactionId := Uuid.ofNat 9, createdAt := Shop.opening
    processedAt := none, retryCount, lastError := some "road closed" }

/-- A row with attempts left is left out: the greatest number of the column is not less than what is
sent for a limit above it. -/
theorem attemptsLeft_overlooks : (worn 1 2147483647).retryCount.toNat ≤ maxInteger ∧
    (worn 1 2147483647).isPending = true ∧
    (worn 1 2147483647).attemptsExhausted (some 2147483648) = false ∧
    ∀ limit, attemptsLeft.truth (sent limit (some 2147483648)) (rowOf (worn 1 2147483647)) =
      some false := by
  refine ⟨by decide, rfl, by decide, fun limit => ?_⟩
  rw [truth_attemptsLeft]
  decide

/-- Three worn rows, of which one has no attempts left and one is overlooked. -/
private def drawer : Store :=
  ((Store.commit {
    transactionId := Uuid.ofNat 9
    messages := [worn 1 2147483647, worn 2 3, worn 3 2147483646] }).run {}).2

/-- A server with the rows of the drawer. -/
private def drawerServer (limit : UInt32) (most : Option UInt32) : Pool Unit where
  acquire := pure (.ok ())
  send _ := pure (.ok { rows := (selected limit most drawer.outbox).map fun r => rowOf r.2 })

private theorem eligible_drawer (most : Option UInt32) : drawer.eligible most =
    drawer.messages.filter fun m => m.isPending && !m.attemptsExhausted most := by
  refine Store.eligible_of_times (Store.Reachable.commit .empty _).sound ?_ most
  unfold Store.InTime
  decide +kernel

/-- With a limit that the column can hold the database draws the line where the store in memory
does, and with the next one it overlooks a row. -/
theorem limit_beyond_column_overlooks_row :
    (∀ m ∈ drawer.messages, m.retryCount.toNat ≤ maxInteger) ∧
    ((fetch (drawerServer 20 (some 2147483647)) 20 (some 2147483647)).run ()).1 =
      .ok (.ok [worn 2 3, worn 3 2147483646]) ∧
    drawer.eligible (some 2147483647) = [worn 2 3, worn 3 2147483646] ∧
    ((fetch (drawerServer 20 (some 2147483648)) 20 (some 2147483648)).run ()).1 =
      .ok (.ok [worn 2 3, worn 3 2147483646]) ∧
    drawer.eligible (some 2147483648) = [worn 1 2147483647, worn 2 3, worn 3 2147483646] := by
  have hs : drawer.Sound := (Store.Reachable.commit .empty _).sound
  have hcolumn : ∀ m ∈ drawer.messages, m.retryCount.toNat ≤ maxInteger := by decide +kernel
  have hexecutes : ∀ most, Executes (drawerServer 20 most) 20 most drawer.outbox () () :=
    fun _ => ⟨0, rfl⟩
  obtain ⟨-, -, -, hlimit⟩ := fetch_cutoff hs hcolumn 20 (some 2147483647)
  obtain ⟨-, -, -, hbeyond⟩ := fetch_cutoff hs hcolumn 20 (some 2147483648)
  have hoffered : drawer.eligible (some 2147483647) = [worn 2 3, worn 3 2147483646] := by
    rw [eligible_drawer]
    decide +kernel
  have hoffered' : drawer.eligible (some 2147483648) =
      [worn 1 2147483647, worn 2 3, worn 3 2147483646] := by
    rw [eligible_drawer]
    decide +kernel
  refine ⟨hcolumn, ?_, hoffered, ?_, hoffered'⟩
  · rw [hlimit Unit _ () () (hexecutes _), hoffered]
    decide +kernel
  · rw [hbeyond Unit _ () () (hexecutes _), hoffered']
    decide +kernel

end EventOutbox.Database
