import EventOutbox.Database.Ledger
import EventOutbox.Proofs.ActionLogic

/-!
# Handlers in a transaction, step by step

A line is a connection to a database server that may answer in any way, with a journal of what was
sent over it and of when a handler was invoked.  What a handler does in a transaction is a job: it
executes statements, each of which may depend on the replies so far, until it has an answer.  One
relation lists all ways in which the delivery of an event to a handler ends.

## Main statement

- `Line.deliver_outcome`
-/

namespace EventOutbox.Database

/-! ## §1 Lines -/

/-- What is noted about a delivery. -/
inductive Note where
  | sent (request : Request) (reply : Except Problem Reply)
  | invoked (key : LedgerKey)
  | returned (answer : Except Failure Unit)

/-- A server and the notes so far. -/
structure Line (S : Type) where
  server : S
  journal : List Note := []

/-- The request for a ledger row. -/
def insertion (key : LedgerKey) : Request :=
  .statement (.insertConsumer key.1 key.2)

@[simp] theorem insertion_ne_beginning (key : LedgerKey) : insertion key ≠ .beginning := nofun

@[simp] theorem insertion_ne_commit (key : LedgerKey) : insertion key ≠ .commit := nofun

@[simp] theorem insertion_ne_rollback (key : LedgerKey) : insertion key ≠ .rollback := nofun

namespace Line

variable {S : Type}

/-- Write a note. -/
def note (n : Note) : Action (Line S) Unit :=
  .update fun w => { w with journal := w.journal ++ [n] }

/-- The connection to a server that answers by a function, also when connections are taken. -/
def pool (take : S → Except Problem Unit × S) (serve : Request → S → Except Problem Reply × S) :
    Pool (Line S) where
  acquire := .step fun w => ((take w.server).1, { w with server := (take w.server).2 })
  send r := .step fun w =>
    ((serve r w.server).1,
      { server := (serve r w.server).2, journal := w.journal ++ [.sent r (serve r w.server).1] })

end Line

/-! ## §2 Deliveries -/

/-- What a handler does in a transaction: it executes statements and goes by their replies. -/
inductive Job where
  | finish (answer : Except Failure Unit)
  | execute (sql : String) (parameters : List Value) (next : Except Problem Reply → Job)

/-- Do a job by a function that executes statements. -/
def Job.run {W : Type} (execute : Statement → Action W (Except Problem Reply)) :
    Job → Action W (Except Failure Unit)
  | .finish answer => pure answer
  | .execute sql parameters next => do
    let reply ← execute (.other sql parameters)
    (next reply).run execute

/-- An event that is given to a consumer, and what the consumer does this time. -/
structure Delivery (κ : Type) [EventCatalog κ] where
  kind : κ
  body : EventBody kind
  consumer : String
  job : EventBody kind → Job

namespace Delivery

variable {κ : Type} [EventCatalog κ] {S : Type}

/-- The ledger key of a delivery. -/
def key (d : Delivery κ) : LedgerKey :=
  ((EventCatalog.schema d.kind).id d.body, d.consumer)

/-- The consumer as a handler that notes when it is invoked and what it answers. -/
def handler (d : Delivery κ) : TransactionalHandler (Line S) d.kind where
  name := d.consumer
  handle body execute := do
    Line.note (.invoked ((EventCatalog.schema d.kind).id body, d.consumer))
    let answer ← (d.job body).run execute
    Line.note (.returned answer)
    pure answer

end Delivery

namespace Line

variable {κ : Type} [EventCatalog κ] {S : Type} (take : S → Except Problem Unit × S)
  (serve : Request → S → Except Problem Reply × S)

/-- Deliver an event to its consumer, once. -/
def deliver (d : Delivery κ) : Action (Line S) (Except Failure Unit) :=
  (d.handler.idempotent (pool take serve)).handle d.body

/-- The line after a delivery. -/
def after (w : Line S) (d : Delivery κ) : Line S :=
  ((deliver take serve d).run w).2

/-- The line after several deliveries, one after the other. -/
def afterAll (w : Line S) (ds : List (Delivery κ)) : Line S :=
  ds.foldl (after take serve) w

end Line

/-! ## §3 How a delivery ends -/

/-- The request that ends a transaction. -/
def Pool.Ending.request : Pool.Ending → Request
  | .keep => .commit
  | .discard => .rollback

/-- How a transaction ends whose work is described by a relation: what is noted, and the answer. -/
inductive InTransaction (work : List Note → Except Failure (Pool.Ending × Unit) → Prop) :
    List Note → Except Failure Unit → Prop where
  /-- There is no connection. -/
  | unacquired (f) : InTransaction work [] (.error f)
  /-- The transaction does not begin. -/
  | unbegun (p r f) :
      InTransaction work [.sent .beginning (.error p), .sent .rollback r] (.error f)
  /-- The work fails, and the transaction is dropped open. -/
  | failed (b r) {xs f} (failed : work xs (.error f)) :
      InTransaction work (.sent .beginning (.ok b) :: (xs ++ [.sent .rollback r])) (.error f)
  /-- The transaction ends as the work says. -/
  | ended (b r) {xs ending} (worked : work xs (.ok (ending, ()))) :
      InTransaction work (.sent .beginning (.ok b) :: (xs ++ [.sent ending.request (.ok r)]))
        (.ok ())
  /-- The transaction cannot be ended as the work says, and is dropped open. -/
  | unended (b p r f) {xs ending} (worked : work xs (.ok (ending, ()))) :
      InTransaction work
        (.sent .beginning (.ok b) ::
          (xs ++ [.sent ending.request (.error p), .sent .rollback r])) (.error f)

/-- The statement of a job was sent. -/
def Note.IsStatement (n : Note) : Prop :=
  ∃ sql parameters reply, n = .sent (.statement (.other sql parameters)) reply

/-- What a consumer does in its transaction. -/
inductive Working (key : LedgerKey) :
    List Note → Except Failure (Pool.Ending × Unit) → Prop where
  /-- The ledger row cannot be added. -/
  | unrecorded (p f) : Working key [.sent (insertion key) (.error p)] (.error f)
  /-- The ledger row is there already. -/
  | skipped {r : Reply} (known : r.affected = 0) :
      Working key [.sent (insertion key) (.ok r)] (.ok (.discard, ()))
  /-- The ledger row is new, and the consumer is invoked and fails. -/
  | failed {r : Reply} {xs} (f) (new : 0 < r.affected) (statements : ∀ x ∈ xs, x.IsStatement) :
      Working key
        (.sent (insertion key) (.ok r) :: .invoked key :: (xs ++ [.returned (.error f)]))
        (.error f)
  /-- The ledger row is new, and the consumer is invoked and succeeds. -/
  | done {r : Reply} {xs} (new : 0 < r.affected) (statements : ∀ x ∈ xs, x.IsStatement) :
      Working key
        (.sent (insertion key) (.ok r) :: .invoked key :: (xs ++ [.returned (.ok ())]))
        (.ok (.keep, ()))

namespace Line

variable {κ : Type} [EventCatalog κ] {S : Type} (take : S → Except Problem Unit × S)
  (serve : Request → S → Except Problem Reply × S)

/-- Taking a connection is not noted, as nothing is sent. -/
theorem acquire_run (w : Line S) : (pool take serve).acquire.run w =
    (.ok (take w.server).1, { w with server := (take w.server).2 }) := rfl

/-- A request is noted with its reply. -/
theorem send_run (r : Request) (w : Line S) : ((pool take serve).send r).run w =
    (.ok (serve r w.server).1,
      ⟨(serve r w.server).2, w.journal ++ [.sent r (serve r w.server).1]⟩) := rfl

/-- A transaction that is left open is rolled back, whatever the server says. -/
theorem drop_run (w : Line S) : ∃ r server, (pool take serve).drop.run w =
    (.ok (), ⟨server, w.journal ++ [.sent .rollback r]⟩) := by
  rw [Pool.drop, Action.run_bind_of_ok (send_run take serve _ w)]
  exact ⟨_, _, rfl⟩

/-- A transaction is ended as asked, or it is left open and dropped. -/
theorem finish_run (request : Request) (report : Problem → Failure) (w : Line S) :
    (∃ r server, ((pool take serve).finish request report ()).run w =
        (.ok (.ok ()), ⟨server, w.journal ++ [.sent request (.ok r)]⟩)) ∨
      ∃ p r f server, ((pool take serve).finish request report ()).run w =
        (.ok (.error f), ⟨server, w.journal ++ [.sent request (.error p), .sent .rollback r]⟩) := by
  rw [Pool.finish, Action.run_bind_of_ok (send_run take serve _ w)]
  rcases serve request w.server with ⟨p | r, server⟩
  · obtain ⟨r, server', hdrop⟩ := drop_run take serve
      ⟨server, w.journal ++ [.sent request (.error p)]⟩
    right
    refine ⟨p, r, report p, server', ?_⟩
    simp only [Action.run_bind_of_ok hdrop, Action.run_pure, List.append_assoc,
      List.singleton_append]
  · exact .inl ⟨r, server, rfl⟩

/-- A transaction ends in one of the listed ways, if its work always has a result. -/
theorem transaction_outcome {P : List Note → Except Failure (Pool.Ending × Unit) → Prop}
    {work : Action (Line S) (Except Failure (Pool.Ending × Unit))}
    (hwork : ∀ w, ∃ xs result server, P xs result ∧
      work.run w = (.ok result, ⟨server, w.journal ++ xs⟩))
    (report : String → Problem → Failure) (w : Line S) :
    ∃ xs answer server, InTransaction P xs answer ∧
      ((pool take serve).transaction report work).run w =
        (.ok answer, ⟨server, w.journal ++ xs⟩) := by
  rw [Pool.transaction, Action.run_bind_of_ok (acquire_run take serve w)]
  -- each request may fail, and what follows a failure is at most the rollback of a drop
  rcases take w.server with ⟨p | _, server₁⟩
  · exact ⟨[], _, server₁, .unacquired _, by rw [List.append_nil]; rfl⟩
  dsimp only
  rw [Action.run_bind_of_ok (send_run take serve _ _)]
  dsimp only
  rcases serve .beginning server₁ with ⟨p | b, server₂⟩
  · obtain ⟨r, server, hdrop⟩ := drop_run take serve
      ⟨server₂, w.journal ++ [.sent .beginning (.error p)]⟩
    dsimp only
    rw [Action.run_bind_of_ok hdrop, Action.run_pure, List.append_assoc]
    exact ⟨_, _, server, .unbegun p r _, rfl⟩
  dsimp only
  obtain ⟨xs, result, server₃, hP, hrun⟩ := hwork ⟨server₂, w.journal ++ [.sent .beginning (.ok b)]⟩
  rw [Action.run_bind_of_ok hrun]
  rcases result with f | ⟨ending, _⟩
  · obtain ⟨r, server, hdrop⟩ := drop_run take serve
      ⟨server₃, w.journal ++ [.sent .beginning (.ok b)] ++ xs⟩
    refine ⟨_, _, server, .failed b r hP, ?_⟩
    dsimp only
    rw [Action.run_bind_of_ok hdrop, Action.run_pure]
    simp
  · have hfinish : ∀ report', ∃ ys answer server,
        InTransaction P (.sent .beginning (.ok b) :: (xs ++ ys)) answer ∧
          ((pool take serve).finish ending.request report' ()).run
              ⟨server₃, w.journal ++ [.sent .beginning (.ok b)] ++ xs⟩ =
            (.ok answer, ⟨server, w.journal ++ .sent .beginning (.ok b) :: (xs ++ ys)⟩) := by
      intro report'
      rcases finish_run take serve ending.request report'
        ⟨server₃, w.journal ++ [.sent .beginning (.ok b)] ++ xs⟩ with
        ⟨r, server, hrun'⟩ | ⟨p, r, f, server, hrun'⟩
      · exact ⟨_, _, server, .ended b r hP, by simpa using hrun'⟩
      · exact ⟨_, _, server, .unended b p r f hP, by simpa using hrun'⟩
    -- both endings differ in the request and in the wording of its failure
    cases ending with
    | keep =>
      obtain ⟨ys, answer, server, houtcome, hend⟩ :=
        hfinish (report "Failed to commit transaction")
      exact ⟨_, answer, server, houtcome, hend⟩
    | discard =>
      obtain ⟨ys, answer, server, houtcome, hend⟩ :=
        hfinish (report "Failed to roll back transaction")
      exact ⟨_, answer, server, houtcome, hend⟩

/-- A job sends statements and has an answer. -/
theorem job_run (job : Job) (w : Line S) : ∃ xs answer server,
    (∀ x ∈ xs, Note.IsStatement x) ∧
      (job.run fun s => (pool take serve).send (.statement s)).run w =
        (.ok answer, ⟨server, w.journal ++ xs⟩) := by
  -- on the job: the reply to its first statement decides how it goes on
  induction job generalizing w with
  | finish answer => exact ⟨[], answer, w.server, by simp, by rw [List.append_nil]; rfl⟩
  | execute sql parameters next ih =>
    rw [Job.run, Action.run_bind_of_ok (send_run take serve _ w)]
    rcases serve (.statement (.other sql parameters)) w.server with ⟨reply, server₁⟩
    obtain ⟨xs, answer, server, hxs, hrun⟩ := ih reply
      ⟨server₁, w.journal ++ [.sent (.statement (.other sql parameters)) reply]⟩
    refine ⟨.sent (.statement (.other sql parameters)) reply :: xs, answer, server, ?_, ?_⟩
    · exact List.forall_mem_cons.mpr ⟨⟨sql, parameters, reply, rfl⟩, hxs⟩
    · simp only [hrun, List.append_assoc, List.singleton_append]

/-- The consumer notes its invocation, its statements and its answer. -/
theorem handler_run (d : Delivery κ) (w : Line S) : ∃ xs answer server,
    (∀ x ∈ xs, Note.IsStatement x) ∧
      (d.handler.handle d.body fun s => (pool take serve).send (.statement s)).run w =
        (.ok answer, ⟨server, w.journal ++ .invoked d.key :: (xs ++ [.returned answer])⟩) := by
  obtain ⟨xs, answer, server, hxs, hrun⟩ := job_run take serve (d.job d.body)
    { w with journal := w.journal ++ [.invoked d.key] }
  refine ⟨xs, answer, server, hxs, ?_⟩
  show (do
    note (.invoked d.key)
    let answer ← (d.job d.body).run fun s => (pool take serve).send (.statement s)
    note (.returned answer)
    pure answer : Action (Line S) _).run w = _
  rw [note, Action.run_bind_of_ok (Action.run_update _ w), Action.run_bind_of_ok hrun, note,
    Action.run_bind_of_ok (Action.run_update _ _), Action.run_pure]
  simp

/-- The work of a delivery is to insert the ledger row and, if the row is new, to invoke the
consumer. -/
theorem work_outcome (d : Delivery κ) (w : Line S) : ∃ xs result server,
    Working d.key xs result ∧ (d.handler.work (pool take serve) d.body).run w =
      (.ok result, ⟨server, w.journal ++ xs⟩) := by
  -- the work begins with the insertion of the row under the key
  have hsend : ((pool take serve).send (.statement (.insertConsumer
      ((EventCatalog.schema d.kind).id d.body) (d.handler (S := S)).name))).run w = _ :=
    send_run take serve (insertion d.key) w
  rw [TransactionalHandler.work, Action.run_bind_of_ok hsend]
  rcases serve (insertion d.key) w.server with ⟨p | r, server₁⟩
  · exact ⟨_, _, server₁, .unrecorded p _, rfl⟩
  dsimp only
  -- no affected row means that another delivery was here before
  by_cases hknown : r.affected = 0
  · have hanswer : ledgerAnswer r = .alreadyRecorded := if_pos hknown
    rw [hanswer]
    exact ⟨_, _, server₁, .skipped hknown, rfl⟩
  · have hanswer : ledgerAnswer r = .inserted := if_neg hknown
    rw [hanswer]
    obtain ⟨xs, answer, server, hxs, hrun⟩ := handler_run take serve d
      ⟨server₁, w.journal ++ [.sent (insertion d.key) (.ok r)]⟩
    dsimp only
    rw [Action.run_bind_of_ok hrun, Action.run_pure, List.append_assoc]
    rcases answer with f | _
    · exact ⟨_, _, server, .failed f (Nat.pos_of_ne_zero hknown) hxs, rfl⟩
    · exact ⟨_, _, server, .done (Nat.pos_of_ne_zero hknown) hxs, rfl⟩

/-- A delivery ends in one of the listed ways, and always with an answer. -/
theorem deliver_outcome (d : Delivery κ) (w : Line S) :
    ∃ xs answer, InTransaction (Working d.key) xs answer ∧
      (deliver take serve d).run w = (.ok answer, after take serve w d) ∧
      (after take serve w d).journal = w.journal ++ xs := by
  obtain ⟨xs, answer, server, houtcome, hrun⟩ :=
    transaction_outcome take serve (work_outcome take serve d) failure w
  have hdeliver : (deliver take serve d).run w = (.ok answer, ⟨server, w.journal ++ xs⟩) := hrun
  rw [after, hdeliver]
  exact ⟨xs, answer, houtcome, rfl, rfl⟩

end Line

end EventOutbox.Database
