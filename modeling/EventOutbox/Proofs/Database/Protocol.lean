import EventOutbox.Database.Store
import EventOutbox.Proofs.Aligned
import EventOutbox.Proofs.Database.ExactlyOnce
import EventOutbox.Proofs.Store.Entities

/-!
# The statements of a commit

What a commit sends to a server that may answer in any way.  Between the beginning of the
transaction and its end there is one statement for each change and then one for each message, up to
the first that fails or the first change with a version that no column holds.  Only after the last
of them is the server asked to commit.

## Main statements

- `Line.writeAll_run`: what is sent inside the transaction.
- `Line.commit_protocol`: all that a commit sends, and what it answers.
-/

namespace EventOutbox.Database

/-! ## §1 Single statements -/

/-- What one statement is to write. -/
inductive Write where
  | change (c : Change)
  | message (m : Message)

namespace Write

/-- What a change set is to write, in order. -/
def all (cs : ChangeSet) : List Write :=
  cs.entities.map .change ++ cs.messages.map .message

/-- The statement that is sent, or why none can be: a new row has version 1, and an updated row
goes from the expected version to the next one. -/
def statement : Write → Except StoreError Statement
  | .change c =>
    match c.kind with
    | .insert => .ok (.insertEntity c.entityType c.entityId 1 c.state)
    | .update expected =>
      if expected.toNat + 1 ≤ maxBigInteger then
        .ok (.updateEntity c.entityType c.entityId (expected.toNat + 1) c.state expected.toNat)
      else .error (.storage s!"Version {expected.toNat + 1} out of range")
  | .message m => .ok (.insertMessage m)

/-- What a refused statement is reported as. -/
def context : Write → String
  | .change c =>
    match c.kind with
    | .insert => "Failed to insert entity"
    | .update _ => "Failed to update entity"
  | .message _ => "Failed to insert outbox message"

/-- The statement fails with a reply, and the failure that is reported. -/
inductive Fails : Write → Except Problem Reply → StoreError → Prop where
  /-- The server refuses the statement. -/
  | refused (write : Write) (p : Problem) :
      Fails write (.error p) (refusal write.context p)
  /-- No row has the version that an update expects. -/
  | notFound (c : Change) {expected : UInt64} (kind : c.kind = .update expected) {r : Reply}
      (none : r.affected = 0) : Fails (.change c) (.ok r) (versionNotFound c expected)

/-- The statement was sent, and did not fail. -/
def Accepted (write : Write) (n : Note) : Prop :=
  ∃ s r, write.statement = .ok s ∧ n = .sent (.statement s) (.ok r) ∧ ∀ e, ¬ write.Fails (.ok r) e

end Write

/-- The number of outbox rows that were added, if a message was inserted. -/
def Note.added : Note → Nat
  | .sent (.statement (.insertMessage _)) (.ok r) => r.affected
  | _ => 0

/-- The number of outbox rows that were added. -/
def added (ns : List Note) : Nat :=
  (ns.map Note.added).sum

/-- Rows are added up along the notes. -/
theorem added_append (ns ms : List Note) : added (ns ++ ms) = added ns + added ms := by
  rw [added, List.map_append, List.sum_append]
  rfl

/-- No outbox row is added by the statement of a change. -/
theorem added_change {c : Change} {s : Statement} (h : (Write.change c).statement = .ok s)
    (reply : Except Problem Reply) : added [.sent (.statement s) reply] = 0 := by
  rw [Write.statement] at h
  split at h
  · cases h
    rfl
  · split at h
    · cases h
      rfl
    · cases h

/-- A version that is not used up is sent as it is, if a column holds it. -/
theorem statement_of_nextVersion {c : Change} {v : UInt64} (h : c.kind.nextVersion? = some v) :
    (versionValue v).bind (changeStatement c) = (Write.change c).statement := by
  have hnext := Store.toNat_nextVersion h
  obtain ⟨entityType, entityId, kind, state⟩ := c
  cases kind with
  | insert =>
    cases h
    rfl
  | update expected =>
    dsimp only [ChangeKind.base] at hnext
    have hv : versionValue v = if expected.toNat + 1 ≤ maxBigInteger then
        .ok (expected.toNat + 1 : Nat)
        else .error (.storage s!"Version {expected.toNat + 1} out of range") := by
      rw [versionValue, ← hnext]
      rfl
    rw [hv]
    by_cases hfits : expected.toNat + 1 ≤ maxBigInteger
    · -- the expected version is smaller, and fits all the more
      have hexpected : versionValue expected = .ok expected.toNat := if_pos (Nat.le_of_lt hfits)
      simp only [if_pos hfits, Except.bind, changeStatement, hexpected, Except.map, Write.statement]
      rfl
    · simp only [if_neg hfits, Except.bind, Write.statement]

/-- The reply to the statement of a change is taken for what it is. -/
theorem changeOutcome_cases (c : Change) (reply : Except Problem Reply) :
    (∃ r, reply = .ok r ∧ changeOutcome c reply = .ok () ∧
      ∀ e, ¬ (Write.change c).Fails (.ok r) e) ∨
    ∃ e, changeOutcome c reply = .error e ∧ (Write.change c).Fails reply e := by
  -- a problem is a failure of any change, and of the replies without one only that of an update can
  -- be
  cases reply with
  | error p =>
    refine .inr ⟨_, ?_, .refused (.change c) p⟩
    simp only [changeOutcome, Write.context]
    cases c.kind <;> rfl
  | ok r =>
    simp only [changeOutcome]
    cases hkind : c.kind with
    | insert =>
      refine .inl ⟨r, rfl, rfl, ?_⟩
      rintro e (_ | ⟨_, hupdate, _⟩)
      rw [hkind] at hupdate
      cases hupdate
    | update expected =>
      by_cases hnone : r.affected = 0
      · exact .inr ⟨_, if_pos hnone, .notFound c hkind hnone⟩
      · refine .inl ⟨r, rfl, if_neg hnone, ?_⟩
        rintro e (_ | ⟨_, _, hzero⟩)
        exact hnone hzero

/-! ## §2 Statements one after the other -/

/-- What is noted while statements are sent one after the other, and the failure that ends it, if
there is one. -/
inductive Writing : List Write → List Note → Option StoreError → Prop where
  /-- No statement failed, and all were sent. -/
  | done {writes notes} (accepted : List.Forall₂ Write.Accepted writes notes) :
      Writing writes notes none
  /-- A statement failed, and those behind it are not sent. -/
  | failed {before write rest notes s reply e}
      (accepted : List.Forall₂ Write.Accepted before notes) (statement : write.statement = .ok s)
      (fails : write.Fails reply e) :
      Writing (before ++ write :: rest) (notes ++ [.sent (.statement s) reply]) (some e)
  /-- A version is out of range, and neither this change nor what is behind it is sent. -/
  | outOfRange {before write rest notes e} (accepted : List.Forall₂ Write.Accepted before notes)
      (statement : write.statement = .error e) :
      Writing (before ++ write :: rest) notes (some e)

namespace Writing

variable {xs ys : List Write} {ns ms : List Note} {e : StoreError} {end_ : Option StoreError}

/-- A writing without a failure accepted everything. -/
theorem accepted (h : Writing xs ns none) : List.Forall₂ Write.Accepted xs ns := by
  cases h with
  | done accepted => exact accepted

/-- What is sent behind statements that did not fail. -/
theorem append (h : Writing xs ns none) (h' : Writing ys ms end_) :
    Writing (xs ++ ys) (ns ++ ms) end_ := by
  have haccepted := h.accepted
  cases h' with
  | done accepted => exact .done (List.rel_append haccepted accepted)
  | failed accepted statement fails =>
    rw [← List.append_assoc, ← List.append_assoc]
    exact .failed (List.rel_append haccepted accepted) statement fails
  | outOfRange accepted statement =>
    rw [← List.append_assoc]
    exact .outOfRange (List.rel_append haccepted accepted) statement

/-- Nothing is sent behind a failure. -/
theorem stop (h : Writing xs ns (some e)) (ys : List Write) : Writing (xs ++ ys) ns (some e) := by
  cases h with
  | failed accepted statement fails =>
    rw [List.append_assoc, List.cons_append]
    exact .failed accepted statement fails
  | outOfRange accepted statement =>
    rw [List.append_assoc, List.cons_append]
    exact .outOfRange accepted statement

/-- Only statements are sent. -/
theorem statements (h : Writing xs ns end_) {n : Note} (hn : n ∈ ns) :
    ∃ s reply, n = .sent (.statement s) reply := by
  have haccepted : ∀ {zs : List Write} {ms : List Note}, List.Forall₂ Write.Accepted zs ms →
      n ∈ ms → ∃ s reply, n = .sent (.statement s) reply := by
    intro zs ms hall hmem
    obtain ⟨_, _, s, r, -, hsent, -⟩ := exists_left_of_forall₂ hall hmem
    exact ⟨s, .ok r, hsent⟩
  cases h with
  | done accepted => exact haccepted accepted hn
  | failed accepted =>
    rcases List.mem_append.mp hn with hn | hn
    · exact haccepted accepted hn
    · exact ⟨_, _, List.mem_singleton.mp hn⟩
  | outOfRange accepted => exact haccepted accepted hn

end Writing

/-- The failure that an answer reports, if it does. -/
def failure? {α : Type} : Except StoreError α → Option StoreError
  | .ok _ => none
  | .error e => some e

namespace Line

variable {S : Type} (take : S → Except Problem Unit × S)
  (serve : Request → S → Except Problem Reply × S)

/-- One change sends one statement, or none if its version is out of range. -/
theorem writeChange_run {c : Change} (hc : ∃ v, c.kind.nextVersion? = some v) (w : Line S) :
    ∃ ns result server, Writing [.change c] ns (failure? result) ∧ added ns = 0 ∧
      (writeChange (pool take serve) c).run w = (.ok result, ⟨server, w.journal ++ ns⟩) := by
  obtain ⟨v, hv⟩ := hc
  have hnext : c.nextVersion = (pure v : Action (Line S) UInt64) := by
    rw [Change.nextVersion, hv]
  rw [writeChange, hnext, Action.run_bind_of_ok (Action.run_pure v w), statement_of_nextVersion hv]
  cases hstatement : (Write.change c).statement with
  | error e =>
    refine ⟨[], .error e, w.server, .outOfRange .nil hstatement, rfl, ?_⟩
    rw [List.append_nil]
    rfl
  | ok s =>
    dsimp only
    rw [Action.run_bind_of_ok (send_run take serve _ w)]
    rcases serve (.statement s) w.server with ⟨reply, server⟩
    rw [Action.run_pure]
    rcases changeOutcome_cases c reply with ⟨r, rfl, houtcome, hsucceeds⟩ | ⟨e, houtcome, hfails⟩
    · rw [houtcome]
      exact ⟨_, .ok (), server, .done (.cons ⟨s, r, hstatement, rfl, hsucceeds⟩ .nil),
        added_change hstatement (.ok r), rfl⟩
    · rw [houtcome]
      exact ⟨_, .error e, server, .failed .nil hstatement hfails,
        added_change hstatement reply, rfl⟩

/-- On the changes: what the first one comes to decides whether the others follow. -/
theorem writeChanges_run {cs : List Change} (hcs : ∀ c ∈ cs, ∃ v, c.kind.nextVersion? = some v)
    (w : Line S) : ∃ ns result server, Writing (cs.map .change) ns (failure? result) ∧
      added ns = 0 ∧ (∀ n, result = .ok n → n = cs.length) ∧
      (writeChanges (pool take serve) cs).run w = (.ok result, ⟨server, w.journal ++ ns⟩) := by
  induction cs generalizing w with
  | nil =>
    refine ⟨[], .ok 0, w.server, .done .nil, rfl, ?_, ?_⟩
    · rintro n ⟨⟩
      rfl
    · rw [List.append_nil]
      rfl
  | cons c cs ih =>
    obtain ⟨ns, result, server, hwriting, hadded, hrun⟩ :=
      writeChange_run take serve (hcs c List.mem_cons_self) w
    rw [writeChanges, Action.run_bind_of_ok hrun]
    cases result with
    | error e => exact ⟨ns, .error e, server, hwriting.stop _, hadded, nofun, rfl⟩
    | ok _ =>
      obtain ⟨ms, rest, server', hwriting', hadded', hlength, hrun'⟩ :=
        ih (fun c hc => hcs c (List.mem_cons_of_mem _ hc)) ⟨server, w.journal ++ ns⟩
      dsimp only
      rw [Action.run_bind_of_ok hrun', Action.run_pure]
      refine ⟨ns ++ ms, rest.map (1 + ·), server', ?_, ?_, ?_, ?_⟩
      · have hmap : failure? (rest.map (1 + ·)) = failure? rest := by cases rest <;> rfl
        rw [hmap]
        exact hwriting.append hwriting'
      · rw [added_append, hadded, hadded']
      · intro n hn
        cases rest with
        | error e => cases hn
        | ok k =>
          cases hn
          rw [hlength k rfl, List.length_cons, Nat.add_comm]
      · rw [List.append_assoc]

/-- Messages are written one after the other, and the rows they add are counted. -/
theorem writeMessages_run (ms : List Message) (w : Line S) :
    ∃ ns result server, Writing (ms.map .message) ns (failure? result) ∧
      (∀ n, result = .ok n → n = added ns) ∧
      (writeMessages (pool take serve) ms).run w = (.ok result, ⟨server, w.journal ++ ns⟩) := by
  induction ms generalizing w with
  | nil =>
    refine ⟨[], .ok 0, w.server, .done .nil, ?_, ?_⟩
    · rintro n ⟨⟩
      rfl
    · rw [List.append_nil]
      rfl
  | cons m ms ih =>
    -- any reply without a problem will do, also one that counts no row: the row was there
    rw [writeMessages, Action.run_bind_of_ok (send_run take serve _ w)]
    rcases hserve : serve (.statement (.insertMessage m)) w.server with ⟨p | r, server⟩
    · have hfails := Write.Fails.refused (.message m) p
      exact ⟨_, .error _, server, .failed .nil rfl hfails, nofun, rfl⟩
    · obtain ⟨ns, rest, server', hwriting, hadded, hrun⟩ :=
        ih ⟨server, w.journal ++ [.sent (.statement (.insertMessage m)) (.ok r)]⟩
      dsimp only
      rw [Action.run_bind_of_ok hrun, Action.run_pure]
      have hfirst : Writing [.message m] [.sent (.statement (.insertMessage m)) (.ok r)] none :=
        .done (.cons ⟨_, r, rfl, rfl, nofun⟩ .nil)
      refine ⟨.sent (.statement (.insertMessage m)) (.ok r) :: ns, rest.map (r.affected + ·),
        server', ?_, ?_, ?_⟩
      · have hmap : failure? (rest.map (r.affected + ·)) = failure? rest := by cases rest <;> rfl
        rw [hmap]
        exact hfirst.append hwriting
      · intro n hn
        cases rest with
        | error e => cases hn
        | ok k =>
          cases hn
          rw [hadded k rfl]
          rfl
      · rw [List.append_assoc, List.singleton_append]

/-- Inside the transaction. -/
theorem writeAll_run {cs : ChangeSet} (hcs : cs.Versioned) (w : Line S) :
    ∃ ns result server, Writing (Write.all cs) ns (failure? result) ∧
      (∀ x, result = .ok x → x = (.keep, ⟨cs.entities.length, added ns⟩)) ∧
      (writeAll (pool take serve) cs).run w = (.ok result, ⟨server, w.journal ++ ns⟩) := by
  obtain ⟨ns, result, server, hwriting, hnone, hlength, hrun⟩ := writeChanges_run take serve hcs w
  rw [writeAll, Action.run_bind_of_ok hrun]
  cases result with
  | error e => exact ⟨ns, .error e, server, hwriting.stop _, nofun, rfl⟩
  | ok n =>
    obtain ⟨ms, result', server', hwriting', hadded, hrun'⟩ :=
      writeMessages_run take serve cs.messages ⟨server, w.journal ++ ns⟩
    dsimp only
    -- everything is written in the order of the set: the changes, and then the messages
    rw [Action.run_bind_of_ok hrun']
    have hwritten := hwriting.append hwriting'
    cases result' with
    | error e =>
      refine ⟨ns ++ ms, .error e, server', hwritten, nofun, ?_⟩
      rw [← List.append_assoc]
      rfl
    | ok k =>
      refine ⟨ns ++ ms, .ok (.keep, ⟨n, k⟩), server', hwritten, ?_, ?_⟩
      · rintro x ⟨⟩
        rw [hlength n rfl, hadded k rfl, added_append, hnone, Nat.zero_add]
      · rw [← List.append_assoc]
        rfl

end Line

/-! ## §3 The whole commit -/

/-- What is noted after the transaction has begun, and the answer. -/
inductive Protocol (cs : ChangeSet) : List Note → Except StoreError Receipt → Prop where
  /-- Everything is written, and the server commits. -/
  | committed {ns} (r) (writing : Writing (Write.all cs) ns none) :
      Protocol cs (ns ++ [.sent .commit (.ok r)]) (.ok ⟨cs.entities.length, added ns⟩)
  /-- Everything is written, and the server does not commit. -/
  | uncommitted {ns} (p r) (writing : Writing (Write.all cs) ns none) :
      Protocol cs (ns ++ [.sent .commit (.error p), .sent .rollback r])
        (.error (refusal "Failed to commit transaction" p))
  /-- Something is not written, and the transaction is dropped open. -/
  | unwritten {ns e} (r) (writing : Writing (Write.all cs) ns (some e)) :
      Protocol cs (ns ++ [.sent .rollback r]) (.error e)

/-- No statement of a commit set is the request to commit. -/
theorem Writing.commit_notMem {xs : List Write} {ns : List Note} {end_ : Option StoreError}
    (h : Writing xs ns end_) (reply : Except Problem Reply) : .sent .commit reply ∉ ns := by
  intro hmem
  obtain ⟨s, r, heq⟩ := h.statements hmem
  cases heq

/-- After a failure, it is not so that every statement was sent and did not fail. -/
theorem Writing.not_all {xs : List Write} {ns sent rest : List Note} {e : StoreError}
    (h : Writing xs ns (some e)) (hall : List.Forall₂ Write.Accepted xs sent) (n : Note) :
    sent ++ rest ≠ ns ++ [n] := by
  intro heq
  cases h with
  | @failed before write _ notes s reply e accepted statement fails =>
    obtain ⟨zs, zs', rfl, hbefore, hrest⟩ := exists_append_of_forall₂ hall
    obtain _ | ⟨⟨s', r, -, hsent, hsucceeds⟩, -⟩ := hrest
    -- the notes of the statements before have one length, so the next ones are the same
    have hlength : zs.length = notes.length :=
      hbefore.length_eq.symm.trans accepted.length_eq
    rw [List.append_assoc, List.append_assoc, List.cons_append, List.singleton_append] at heq
    obtain ⟨-, htail⟩ := List.append_inj heq hlength
    have hnote := (List.cons.inj htail).1
    rw [hsent] at hnote
    cases hnote
    exact hsucceeds _ fails
  | outOfRange accepted statement =>
    obtain ⟨zs, zs', rfl, -, hrest⟩ := exists_append_of_forall₂ hall
    obtain _ | ⟨⟨s', r, hstatement, -, -⟩, -⟩ := hrest
    rw [statement] at hstatement
    cases hstatement

namespace Protocol

variable {cs : ChangeSet} {notes : List Note} {answer : Except StoreError Receipt}

/-- The server is asked to commit just when no statement failed and all were sent. -/
theorem commit_mem_iff (h : Protocol cs notes answer) :
    (∃ reply, .sent .commit reply ∈ notes) ↔
      ∃ sent rest, notes = sent ++ rest ∧ List.Forall₂ Write.Accepted (Write.all cs) sent := by
  cases h with
  | committed r writing => exact ⟨fun _ => ⟨_, _, rfl, writing.accepted⟩, fun _ => ⟨.ok r, by simp⟩⟩
  | uncommitted p r writing =>
    exact ⟨fun _ => ⟨_, _, rfl, writing.accepted⟩, fun _ => ⟨.error p, by simp⟩⟩
  | unwritten r writing =>
    constructor
    · rintro ⟨reply, hmem⟩
      rcases List.mem_append.mp hmem with hmem | hmem
      · exact absurd hmem (writing.commit_notMem reply)
      · simp at hmem
    · rintro ⟨sent, rest, heq, hall⟩
      exact absurd heq.symm (writing.not_all hall _)

/-- The commit succeeds just when the server says that it has committed. -/
theorem ok_iff (h : Protocol cs notes answer) :
    (∃ receipt, answer = .ok receipt) ↔ ∃ r, .sent .commit (.ok r) ∈ notes := by
  cases h with
  | committed r writing => exact ⟨fun _ => ⟨r, by simp⟩, fun _ => ⟨_, rfl⟩⟩
  | uncommitted p r writing => simp [writing.commit_notMem]
  | unwritten r writing => simp [writing.commit_notMem]

/-- Where the commit fails, either the server was not asked to commit, or it said that it has
not. -/
theorem commit_of_error (h : Protocol cs notes answer) {e : StoreError} (he : answer = .error e) :
    (∀ reply, .sent .commit reply ∉ notes) ∨
      ∃ p, .sent .commit (.error p) ∈ notes ∧ e = refusal "Failed to commit transaction" p := by
  cases h with
  | committed => cases he
  | uncommitted p r writing =>
    cases he
    exact .inr ⟨p, by simp, rfl⟩
  | unwritten r writing => exact .inl fun reply => by simp [writing.commit_notMem]

end Protocol

/-- What a commit sends once its transaction has begun, and what it answers. -/
structure Exchange (cs : ChangeSet) (notes : List Note) (answer : Except StoreError Receipt) :
    Prop where
  protocol : Protocol cs notes answer
  commit_sent : (∃ reply, .sent .commit reply ∈ notes) ↔
    ∃ sent rest, notes = sent ++ rest ∧ List.Forall₂ Write.Accepted (Write.all cs) sent
  succeeds : (∃ receipt, answer = .ok receipt) ↔ ∃ r, .sent .commit (.ok r) ∈ notes
  fails : ∀ e, answer = .error e → (∀ reply, .sent .commit reply ∉ notes) ∨
    ∃ p, .sent .commit (.error p) ∈ notes ∧ e = refusal "Failed to commit transaction" p

/-- What follows of the way through a transaction, told of its notes. -/
theorem Protocol.exchange {cs : ChangeSet} {notes : List Note}
    {answer : Except StoreError Receipt} (h : Protocol cs notes answer) :
    Exchange cs notes answer :=
  ⟨h, h.commit_mem_iff, h.ok_iff, fun _ => h.commit_of_error⟩

namespace Line

variable {S : Type} (take : S → Except Problem Unit × S)
  (serve : Request → S → Except Problem Reply × S)

/-- The end of the transaction when everything is written. -/
theorem finish_protocol {cs : ChangeSet} {ns : List Note}
    (writing : Writing (Write.all cs) ns none) (w : Line S) :
    ∃ ms answer server, Protocol cs (ns ++ ms) answer ∧
      ((pool take serve).finish .commit (refusal "Failed to commit transaction")
        (⟨cs.entities.length, added ns⟩ : Receipt)).run w =
        (.ok answer, ⟨server, w.journal ++ ms⟩) := by
  rw [Pool.finish, Action.run_bind_of_ok (send_run take serve _ w)]
  rcases serve .commit w.server with ⟨p | r, server⟩
  -- a transaction whose commit is refused is still open, and is rolled back when it is dropped
  · obtain ⟨r, server', hdrop⟩ := drop_run take serve
      ⟨server, w.journal ++ [.sent .commit (.error p)]⟩
    dsimp only
    rw [Action.run_bind_of_ok hdrop, Action.run_pure, List.append_assoc]
    exact ⟨_, _, server', .uncommitted p r writing, rfl⟩
  · exact ⟨_, _, server, .committed r writing, rfl⟩

/-- Whatever the server answers once the transaction has begun, the commit sends its statements up
to the first that fails, and asks to commit if none did. -/
theorem commit_protocol {cs : ChangeSet} {w : Line S} {b : Reply}
    (below : ∀ c ∈ cs.entities, ∀ expected, c.kind = .update expected →
      expected.toNat + 1 < UInt64.size)
    (acquired : (take w.server).1 = .ok ())
    (begun : (serve .beginning (take w.server).2).1 = .ok b) :
    ∃ notes answer server, Exchange cs notes answer ∧ (commit (pool take serve) cs).run w =
      (.ok answer, ⟨server, w.journal ++ .sent .beginning (.ok b) :: notes⟩) := by
  -- the next version of each change can be reckoned, whether or not a column holds it
  have hversioned : cs.Versioned := by
    intro c hc
    refine Store.exists_nextVersion ?_
    cases hkind : c.kind with
    | insert => decide
    | update expected => exact below c hc expected hkind
  -- a connection is taken and the transaction begun, by what is assumed of the server
  have hacquire := acquire_run take serve w
  rw [acquired] at hacquire
  have hbegin := send_run take serve .beginning { w with server := (take w.server).2 }
  rw [begun] at hbegin
  obtain ⟨ns, result, server, hwriting, hresult, hrun⟩ :=
    writeAll_run take serve hversioned ⟨_, w.journal ++ [.sent .beginning (.ok b)]⟩
  rw [commit, Pool.transaction, Action.run_bind_of_ok hacquire]
  dsimp only
  rw [Action.run_bind_of_ok hbegin]
  dsimp only
  rw [Action.run_bind_of_ok hrun]
  cases result with
  | error e =>
    obtain ⟨r, server', hdrop⟩ := drop_run take serve
      ⟨server, w.journal ++ [.sent .beginning (.ok b)] ++ ns⟩
    refine ⟨_, _, server', (Protocol.unwritten r hwriting).exchange, ?_⟩
    dsimp only
    rw [Action.run_bind_of_ok hdrop, Action.run_pure, List.append_assoc, List.append_assoc,
      List.singleton_append]
  | ok x =>
    obtain rfl := hresult x rfl
    -- everything was written, so what is left is the request to commit and its reply
    obtain ⟨ms, answer, server', hprotocol, hfinish⟩ := finish_protocol take serve hwriting
      ⟨server, w.journal ++ [.sent .beginning (.ok b)] ++ ns⟩
    refine ⟨_, answer, server', hprotocol.exchange, ?_⟩
    dsimp only
    rw [hfinish, List.append_assoc, List.append_assoc, List.singleton_append]

/-- A new item, a change of another one, and the row of an event. -/
private def order : ChangeSet where
  transactionId := Uuid.ofNat 9
  entities := [⟨"Item", "7", .insert, .null⟩, ⟨"Item", "8", .update 3, .null⟩]
  messages :=
    (Message.ofEvent (Shop.created 1) "Item" "7" (Uuid.ofNat 9) Shop.opening).toOption.toList

/-- Another writer changed the item before. -/
theorem stale_update_rolled_back :
    let take := fun s => (Except.ok (), s)
    let replies : List (Except Problem Reply) :=
      [.ok {}, .ok { affected := 1 }, .ok { affected := 0 }, .ok {}]
    ((commit (pool take scripted) order).run ⟨replies, []⟩).1 =
      .ok (.error (.concurrency "Item" "8" "expected version 3 not found")) ∧
    ∃ notes answer server, Exchange order notes answer ∧
      (commit (pool take scripted) order).run ⟨replies, []⟩ =
        (.ok answer, ⟨server, .sent .beginning (.ok {}) :: notes⟩) := by
  have hbases : ∀ c ∈ order.entities, c.kind.base + 1 < UInt64.size := by decide
  refine ⟨by decide +kernel, commit_protocol _ scripted (fun c hc expected hkind => ?_) rfl rfl⟩
  have hbase := hbases c hc
  rw [hkind] at hbase
  exact hbase

end Line

end EventOutbox.Database
