import EventOutbox.Action

/-!
# A logic of actions

Two ways to say what an action does.  `Ensures a w Q X` follows one run of `a` from the world `w`:
an answer and the new world satisfy `Q`, and where the run ends early its world satisfies `X`.
`Within R a` bounds what `a` can do to any world by a relation `R`; when `R` is reflexive and
transitive, a sequence of bounded actions is bounded.
-/

namespace EventOutbox.Action

variable {W α β σ : Type}

/-! ## §1 Runs -/

@[simp] theorem run_pure (x : α) (w : W) : (pure x : Action W α).run w = (.ok x, w) := rfl

@[simp] theorem run_abort (e : Abort) (w : W) :
    (abort e : Action W α).run w = (.error e, w) := rfl

@[simp] theorem run_ask (f : W → α) (w : W) : (ask f).run w = (.ok (f w), w) := rfl

@[simp] theorem run_update (f : W → W) (w : W) : (update f).run w = (.ok (), f w) := rfl

@[simp] theorem run_step (f : W → α × W) (w : W) : (step f).run w = (.ok (f w).1, (f w).2) := rfl

@[simp] theorem run_focus (c : Cell W σ) (a : Action σ α) (w : W) :
    (c.focus a).run w = ((a.run (c.get w)).1, c.set (a.run (c.get w)).2 w) := rfl

/-- A sequence runs its second part where the first one left the world, if it left an answer. -/
theorem run_bind (a : Action W α) (f : α → Action W β) (w : W) :
    (a >>= f).run w = match a.run w with
      | (.ok x, w') => (f x).run w'
      | (.error e, w') => (.error e, w') := rfl

/-- A first part that answers can be run through. -/
theorem run_bind_of_ok {a : Action W α} {f : α → Action W β} {w w' : W} {x : α}
    (h : a.run w = (.ok x, w')) : (a >>= f).run w = (f x).run w' := by
  rw [run_bind, h]

/-- A first part that ends early ends the sequence. -/
theorem run_bind_of_error {a : Action W α} {f : α → Action W β} {w w' : W} {e : Abort}
    (h : a.run w = (.error e, w')) : (a >>= f).run w = (.error e, w') := by
  rw [run_bind, h]

/-- Sequences may be regrouped, since both ways run the same parts in the same worlds. -/
theorem bind_assoc {γ : Type} (a : Action W α) (f : α → Action W β) (g : β → Action W γ) :
    a >>= f >>= g = a >>= fun x => f x >>= g := by
  funext w
  show ((a >>= f) >>= g).run w = (a >>= fun x => f x >>= g).run w
  rw [run_bind, run_bind, run_bind]
  rcases a.run w with ⟨e | x, w'⟩ <;> rfl

/-! ## §2 One run -/

/-- The run of `a` from `w` ends with an answer and a world that satisfy `Q`, or early in a world
that satisfies `X`. -/
def Ensures (a : Action W α) (w : W) (Q : α → W → Prop) (X : W → Prop) : Prop :=
  match a.run w with
  | (.ok x, w') => Q x w'
  | (.error _, w') => X w'

variable {Q Q' : α → W → Prop} {X X' : W → Prop} {w : W}

@[simp] theorem ensures_pure (x : α) : (pure x : Action W α).Ensures w Q X ↔ Q x w := Iff.rfl

@[simp] theorem ensures_abort (e : Abort) : (abort e : Action W α).Ensures w Q X ↔ X w := Iff.rfl

@[simp] theorem ensures_ask (f : W → α) : (ask f).Ensures w Q X ↔ Q (f w) w := Iff.rfl

@[simp] theorem ensures_update (f : W → W) {Q : Unit → W → Prop} :
    (update f).Ensures w Q X ↔ Q () (f w) := Iff.rfl

/-- To assert something of a sequence is to assert of its first part what the second one needs. -/
@[simp] theorem ensures_bind (a : Action W α) (f : α → Action W β) {Q : β → W → Prop} :
    (a >>= f).Ensures w Q X ↔ a.Ensures w (fun x w' => (f x).Ensures w' Q X) X := by
  unfold Ensures
  rw [run_bind]
  rcases a.run w with ⟨x | e, w'⟩ <;> rfl

theorem ensures_of_run_ok {a : Action W α} {x : α} {w' : W} (h : a.run w = (.ok x, w'))
    (hQ : Q x w') : a.Ensures w Q X := by
  unfold Ensures
  rw [h]
  exact hQ

/-- Every run ends in some way. -/
theorem ensures_true (a : Action W α) (w : W) :
    a.Ensures w (fun _ _ => True) fun _ => True := by
  unfold Ensures
  split <;> trivial

/-- An assertion may be weakened, for an early end as for an answer. -/
theorem Ensures.mono {a : Action W α} (h : a.Ensures w Q X) (hQ : ∀ x w', Q x w' → Q' x w')
    (hX : ∀ w', X w' → X' w') : a.Ensures w Q' X' := by
  unfold Ensures at h ⊢
  split at h <;> rename_i heq
  · exact hQ _ _ h
  · exact hX _ h

/-- Two assertions about one run hold together. -/
theorem Ensures.and {a : Action W α} (h : a.Ensures w Q X) (h' : a.Ensures w Q' X') :
    a.Ensures w (fun x w' => Q x w' ∧ Q' x w') fun w' => X w' ∧ X' w' := by
  unfold Ensures at h h' ⊢
  split at h <;> rename_i heq
  · rw [heq] at h'
    exact ⟨h, h'⟩
  · rw [heq] at h'
    exact ⟨h, h'⟩

/-- The answer and the world that an assertion is about are those of the run. -/
theorem Ensures.with_run {a : Action W α} (h : a.Ensures w Q X) :
    a.Ensures w (fun x w' => a.run w = (.ok x, w') ∧ Q x w') X := by
  unfold Ensures at h ⊢
  split at h <;> rename_i heq
  · exact ⟨heq, h⟩
  · exact h

/-- What an assertion says of a run that has an answer. -/
theorem Ensures.answered {a : Action W α} {x : α} (h : a.Ensures w Q X)
    (hrun : (a.run w).1 = .ok x) : Q x (a.run w).2 := by
  unfold Ensures at h
  -- an early end contradicts the answer at hand
  split at h <;> rename_i heq <;> rw [heq] at hrun ⊢ <;> cases hrun
  exact h

/-- A run that does not end early has an answer. -/
theorem Ensures.exists_answer {a : Action W α} (h : a.Ensures w Q fun _ => False) :
    ∃ x, (a.run w).1 = .ok x ∧ Q x (a.run w).2 := by
  unfold Ensures at h
  split at h <;> rename_i heq
  · exact ⟨_, by rw [heq], by rw [heq]; exact h⟩
  · exact h.elim

/-- What holds of the world however the run ends. -/
theorem Ensures.world {a : Action W α} {P : W → Prop} (h : a.Ensures w (fun _ w' => P w') P) :
    P (a.run w).2 := by
  unfold Ensures at h
  split at h <;> rename_i heq <;> simpa only [heq] using h

/-- An assertion about the world alone needs no look at how the run ended. -/
theorem ensures_world_iff {a : Action W α} {P : W → Prop} :
    a.Ensures w (fun _ w' => P w') P ↔ P (a.run w).2 := by
  refine ⟨Ensures.world, fun h => ?_⟩
  unfold Ensures
  split <;> rename_i heq <;> simpa only [heq] using h

/-! ## §3 All runs -/

/-- Whatever the world is, the action changes it by a step of `R`. -/
def Within (R : W → W → Prop) (a : Action W α) : Prop :=
  ∀ w, R w (a.run w).2

section Within

variable {R : W → W → Prop} (refl : ∀ w, R w w) (trans : ∀ u v w, R u v → R v w → R u w)

include refl in
theorem within_pure (x : α) : (pure x : Action W α).Within R := refl

include refl in
theorem within_ask (f : W → α) : (ask f).Within R := refl

include trans in
/-- Steps of a transitive relation add up, also where the first part ends early and makes the last
one. -/
theorem Within.bind {a : Action W α} {f : α → Action W β} (ha : a.Within R)
    (hf : ∀ x, (f x).Within R) : (a >>= f).Within R := by
  intro w
  have hw := ha w
  rw [run_bind]
  split <;> rename_i x w' heq <;> rw [heq] at hw
  · exact trans _ _ _ hw (hf x w')
  · exact hw

end Within

end EventOutbox.Action
