import EventOutbox.Delivery.Bus
import EventOutbox.Proofs.ActionLogic

/-!
# Rules for publishing

How to reason about a bus from what its handlers do.  What bounds the handlers and the log bounds
publishing.  When no handler reports a failure, everything that the handlers promise for their
success holds at the end, as long as the later handlers do not undo it.

## Main statements

- `Bus.publish_within`
- `Bus.publish_ensures`
-/

namespace EventOutbox.Bus

open EventOutbox.Action

variable {W κ : Type} [EventCatalog κ] [DecidableEq κ] {e : Event κ}

/-! ## §1 Bounded handlers -/

section Within

variable {R : W → W → Prop} (refl : ∀ w, R w w) (trans : ∀ u v w, R u v → R v w → R u w)

include refl in
/-- An event of another type is refused without a call. -/
theorem deliver_within {s : Subscription W κ} (h : ∀ body, (s.handler.handle body).Within R) :
    (s.deliver e).Within R := by
  unfold Subscription.deliver
  split
  · exact h _
  · exact within_pure refl _

include refl trans

/-- Handlers one after the other are bounded by what bounds each of them. -/
theorem deliverAll_within {ss : List (Subscription W κ)}
    (h : ∀ s ∈ ss, ∀ body, (s.handler.handle body).Within R) : (deliverAll e ss).Within R := by
  induction ss with
  | nil => exact within_pure refl _
  | cons s ss ih =>
    -- the failures are gathered behind the calls, which changes nothing
    refine Within.bind trans (deliver_within refl (h s List.mem_cons_self)) fun answer => ?_
    refine Within.bind trans (ih fun s hs => h s (List.mem_cons_of_mem _ hs)) fun failures => ?_
    split <;> exact within_pure refl _

/-- Publishing is bounded by what bounds the handlers and the log. -/
theorem publish_within {b : Bus W κ} {log : Cell W (List (Event κ))}
    (hlog : (log.modify (· ++ [e])).Within R)
    (h : ∀ s ∈ b.subscriptions, ∀ body, (s.handler.handle body).Within R) :
    (b.publish log e).Within R := by
  refine Within.bind trans hlog fun _ => ?_
  refine Within.bind trans (deliverAll_within refl trans fun s hs => ?_) fun failures => ?_
  · exact h s (List.mem_filter.mp hs).1
  · split <;> exact within_pure refl _

end Within

/-! ## §2 One event -/

section Ensures

variable {J X : W → Prop} {R : W → W → Prop} {P : Subscription W κ → W → Prop}

/-- An event reaches the handler if it is of the handler's kind, and is refused otherwise. -/
theorem deliver_ensures {s : Subscription W κ} {w : W} {Q : Except Failure Unit → W → Prop}
    (refused : Q (.error (s.mismatch e)) w)
    (handled : ∀ body, e = ⟨s.kind, body⟩ → (s.handler.handle body).Ensures w Q X) :
    (s.deliver e).Ensures w Q X := by
  unfold Subscription.deliver
  split
  · next hkind =>
    refine handled _ ?_
    -- the body of the event is the one that the handler is given
    obtain ⟨kind, body⟩ := e
    dsimp only at hkind
    subst hkind
    rfl
  · exact refused

/-- If every handler keeps `J`, changes the world by steps of `R`, and promises `P` for its success,
then so do all of them together, and without failures every promise holds. -/
theorem deliverAll_ensures (refl : ∀ w, R w w) (trans : ∀ u v w, R u v → R v w → R u w)
    (stable : ∀ s w w', P s w → R w w' → P s w') {ss : List (Subscription W κ)}
    (h : ∀ s ∈ ss, ∀ w, J w → (s.deliver e).Ensures w
      (fun answer w' => J w' ∧ R w w' ∧ (answer = .ok () → P s w')) X) {w : W} (hw : J w) :
    (deliverAll e ss).Ensures w
      (fun failures w' => J w' ∧ R w w' ∧ (failures = [] → ∀ s ∈ ss, P s w')) X := by
  -- on the subscriptions, keeping both the assertion and the steps that were made
  induction ss generalizing w with
  | nil => exact ⟨hw, refl w, fun _ s hs => by simp at hs⟩
  | cons s ss ih =>
    rw [deliverAll, ensures_bind]
    refine (h s List.mem_cons_self w hw).mono (fun answer w₁ ⟨hJ₁, hR₁, hP₁⟩ => ?_) fun _ hX => hX
    rw [ensures_bind]
    refine (ih (fun s hs => h s (List.mem_cons_of_mem _ hs)) hJ₁).mono
      (fun failures w₂ ⟨hJ₂, hR₂, hP₂⟩ => ?_) fun _ hX => hX
    rcases answer with f | _
    · exact ⟨hJ₂, trans _ _ _ hR₁ hR₂, fun hnil => by simp at hnil⟩
    · -- what this handler promised outlives the steps of the others
      refine ⟨hJ₂, trans _ _ _ hR₁ hR₂, fun hnil s' hs' => ?_⟩
      rcases List.mem_cons.mp hs' with rfl | hs'
      · exact stable s' w₁ w₂ (hP₁ rfl) hR₂
      · exact hP₂ hnil s' hs'

/-- The event is logged, and then the handlers of its type get it. -/
theorem publish_ensures (b : Bus W κ) (log : Cell W (List (Event κ))) (refl : ∀ w, R w w)
    (trans : ∀ u v w, R u v → R v w → R u w) (stable : ∀ s w w', P s w → R w w' → P s w')
    (h : ∀ s ∈ b.subscribers e.eventType, ∀ w, J w → (s.deliver e).Ensures w
      (fun answer w' => J w' ∧ R w w' ∧ (answer = .ok () → P s w')) X) {w : W}
    (hw : J (log.set (log.get w ++ [e]) w)) :
    (b.publish log e).Ensures w (fun answer w' => J w' ∧ R (log.set (log.get w ++ [e]) w) w' ∧
      (answer = .ok () → ∀ s ∈ b.subscribers e.eventType, P s w')) X := by
  rw [publish, ensures_bind, Cell.modify, ensures_update, ensures_bind]
  refine (deliverAll_ensures refl trans stable h hw).mono
    (fun failures w' ⟨hJ, hR, hP⟩ => ?_) fun _ hX => hX
  split
  · next hempty => exact ⟨hJ, hR, fun _ => hP (List.isEmpty_iff.mp hempty)⟩
  · exact ⟨hJ, hR, fun hok => by cases hok⟩

end Ensures

end EventOutbox.Bus
