import EventOutbox.Proofs.ActionLogic
import EventOutbox.Store.Memory

/-!
# The ledger of a store

Recording a consumer adds its key to the ledger and nothing else.
-/

namespace EventOutbox

namespace Table

variable {κ ρ : Type} [DecidableEq κ]

/-- After filing a row, its key has a row, and the other keys have one if they had. -/
theorem contains_put (t : Table κ ρ) (k : κ) (r : ρ) (l : κ) :
    (t.put k r).contains l = true ↔ l = k ∨ t.contains l = true := by
  obtain ⟨rows⟩ := t
  simp only [contains, find?, put, Option.isSome_map, List.find?_isSome, decide_eq_true_eq]
  induction rows with
  | nil => simp [putRow, eq_comm]
  | cons row rows ih =>
    obtain ⟨k', s⟩ := row
    by_cases hk : k' = k
    · -- the row of the key is replaced in place
      subst hk
      simp [putRow, eq_comm]
    · simp only [putRow, hk, if_false, List.mem_cons, or_and_right, exists_or, exists_eq_left, ih]
      exact or_left_comm

end Table

namespace Store

/-- Recording a consumer answers, and the ledger then holds its key and the keys it held before. -/
theorem recordConsumer_run (s : Store) (id : Uuid) (consumer : String) (now : Instant) :
    ∃ answer ledger, (recordConsumer id consumer now).run s = (.ok answer, { s with ledger }) ∧
      ∀ k, ledger.contains k = true ↔ k = (id, consumer) ∨ s.ledger.contains k = true := by
  -- a key that is there already is left alone, and is among the old ones
  by_cases h : s.hasConsumer id consumer = true
  · refine ⟨.alreadyRecorded, s.ledger, ?_, fun k => ?_⟩
    · simp [recordConsumer, h]
    · constructor
      · exact Or.inr
      · rintro (rfl | hk)
        · exact h
        · exact hk
  · refine ⟨.inserted, s.ledger.put (id, consumer) ⟨id, consumer, now⟩, ?_, fun k => ?_⟩
    · simp [recordConsumer, h]
    · exact Table.contains_put s.ledger (id, consumer) _ k

end Store

end EventOutbox
