import EventOutbox.Proofs.Store.Commit
import EventOutbox.Proofs.Store.Delivery

/-!
# Reachable stores

The states that a store gets into by its own operations, whatever these answer and also when they
end early: an operation that ends early leaves what it has written so far.

## Main statement

- `Store.Reachable.sound`: identifiers are distinct and numbers increase in every reachable store.
-/

namespace EventOutbox.Store

/-- The states that a store can get into. -/
inductive Reachable : Store → Prop where
  | empty : Reachable {}
  | commit {s} (before : Reachable s) (cs : ChangeSet) : Reachable ((commit cs).run s).2
  | fetch {s} (before : Reachable s) (limit : UInt32) (maxAttempts : Option UInt32) :
      Reachable ((fetch limit maxAttempts).run s).2
  | markProcessed {s} (before : Reachable s) (id : Uuid) (at_ : Instant) :
      Reachable ((markProcessed id at_).run s).2
  | recordFailure {s} (before : Reachable s) (id : Uuid) (error : String) :
      Reachable ((recordFailure id error).run s).2
  | recordConsumer {s} (before : Reachable s) (id : Uuid) (consumer : String) (now : Instant) :
      Reachable ((recordConsumer id consumer now).run s).2
  | failNextCommit {s} (before : Reachable s) (e : StoreError) : Reachable (s.failNextCommit e)
  | failNextFetch {s} (before : Reachable s) (f : Failure) : Reachable (s.failNextFetch f)
  | failNextMark {s} (before : Reachable s) (f : Failure) : Reachable (s.failNextMark f)

/-- Every row stays as it is, and rows are added. -/
structure Grows (s s' : Store) : Prop where
  sound : s.Sound → s'.Sound
  rows : ∃ added, s'.messages = s.messages ++ added

/-- A store with the same outbox has grown by nothing. -/
theorem grows_of_same_rows {s s' : Store} (hout : s'.outbox = s.outbox)
    (hseq : s'.nextSeq = s.nextSeq) : s.Grows s' where
  sound := fun hs => hs.congr hout hseq
  rows := ⟨[], by rw [messages, messages, hout, List.append_nil]⟩

theorem Grows.refl (s : Store) : s.Grows s := grows_of_same_rows rfl rfl

theorem Grows.trans (a b c : Store) (h : a.Grows b) (h' : b.Grows c) : a.Grows c := by
  obtain ⟨xs, hxs⟩ := h.rows
  obtain ⟨ys, hys⟩ := h'.rows
  exact ⟨fun hs => h'.sound (h.sound hs), xs ++ ys, by rw [hys, hxs, List.append_assoc]⟩

/-- Inserting adds the messages that are new. -/
theorem grows_insertMessages (s : Store) (ms : List Message) :
    s.Grows (s.insertMessages ms).2 where
  sound := fun hs => hs.insertMessages ms
  rows := by
    rw [insertMessages_eq]
    exact ⟨_, messages_addRows s _⟩

/-- A commit adds rows, however it ends. -/
theorem commit_within (cs : ChangeSet) : (commit cs).Within Grows := by
  apply commit_within_of Grows.refl Grows.trans
  case put => exact fun s c v _ => grows_of_same_rows rfl rfl
  case fault => exact fun s faults => grows_of_same_rows rfl rfl
  case insert => exact grows_insertMessages

/-- Soundness is an invariant of the operations. -/
theorem Reachable.sound {s : Store} (h : Reachable s) : s.Sound := by
  induction h with
  | empty => exact sound_empty {}
  | commit _ cs ih => exact (commit_within cs _).sound ih
  | fetch _ limit maxAttempts ih => exact (fetch_within limit maxAttempts _).sound ih
  | markProcessed _ id at_ ih => exact (markProcessed_within id at_ _).sound ih
  | recordFailure _ id error ih => exact (recordFailure_within id error _).sound ih
  | @recordConsumer s _ id consumer now ih =>
    rw [Store.recordConsumer, Action.run_step]
    -- a consumer that is known changes nothing, and a new one is no outbox row
    split
    · exact ih
    · exact ih.congr rfl rfl
  | failNextCommit _ _ ih => exact ih.congr rfl rfl
  | failNextFetch _ _ ih => exact ih.congr rfl rfl
  | failNextMark _ _ ih => exact ih.congr rfl rfl

end EventOutbox.Store
