import Mathlib.Algebra.GroupWithZero.Nat
import Mathlib.Data.List.Forall2

/-!
# Aligned lists

Facts about two lists whose elements are related one by one.
-/

namespace EventOutbox

variable {α β γ : Type} {R : α → β → Prop} {S : β → γ → Prop} {T : α → γ → Prop}

/-- What stands on the right side has a partner on the left. -/
theorem exists_left_of_forall₂ {xs : List α} {ys : List β} (h : List.Forall₂ R xs ys) {y : β}
    (hy : y ∈ ys) : ∃ x ∈ xs, R x y := by
  induction h with
  | nil => simp at hy
  | cons hxy _ ih =>
    rcases List.mem_cons.mp hy with rfl | hy
    · exact ⟨_, List.mem_cons_self, hxy⟩
    · obtain ⟨x, hx, hR⟩ := ih hy
      exact ⟨x, List.mem_cons_of_mem _ hx, hR⟩

/-- What stands on the left side has a partner on the right. -/
theorem exists_right_of_forall₂ {xs : List α} {ys : List β} (h : List.Forall₂ R xs ys) {x : α}
    (hx : x ∈ xs) : ∃ y ∈ ys, R x y :=
  exists_left_of_forall₂ h.flip hx

/-- Aligned lists compose as their relations do. -/
theorem forall₂_comp {xs : List α} {ys : List β} {zs : List γ}
    (hT : ∀ x y z, R x y → S y z → T x z) (h : List.Forall₂ R xs ys) (h' : List.Forall₂ S ys zs) :
    List.Forall₂ T xs zs := by
  induction h generalizing zs with
  | nil =>
    cases h'
    exact .nil
  | cons hxy _ ih =>
    cases h' with
    | cons hyz hrest => exact .cons (hT _ _ _ hxy hyz) (ih hrest)

/-- Lists that are aligned by a relation that keeps a value have the same values. -/
theorem map_eq_of_forall₂ {f : α → γ} {g : β → γ} {xs : List α} {ys : List β}
    (h : List.Forall₂ R xs ys) (hfg : ∀ x y, R x y → g y = f x) : ys.map g = xs.map f := by
  induction h with
  | nil => rfl
  | cons hxy _ ih => rw [List.map_cons, List.map_cons, hfg _ _ hxy, ih]

/-- That the left side is at hand may be used for what follows for each of its elements. -/
theorem forall₂_imp_of_mem {T : α → β → Prop} {xs : List α} {ys : List β}
    (h : List.Forall₂ R xs ys) (himp : ∀ x ∈ xs, ∀ y, R x y → T x y) : List.Forall₂ T xs ys := by
  have hmem : List.Forall₂ (fun x y => x ∈ xs ∧ R x y) xs ys :=
    List.forall₂_and_left _ _ |>.mpr ⟨fun _ hx => hx, h⟩
  exact hmem.imp fun x y ⟨hx, hxy⟩ => himp x hx y hxy

/-- The right side may be mapped by what each of its elements and its partner are. -/
theorem forall₂_map_of_mem {f : β → γ} {xs : List α} {ys : List β} (h : List.Forall₂ R xs ys)
    (hf : ∀ x ∈ xs, ∀ y, R x y → T x (f y)) : List.Forall₂ T xs (ys.map f) := by
  rw [List.forall₂_map_right_iff]
  exact forall₂_imp_of_mem h hf

/-- Two aligned lists may be brought together into one that is aligned with the left side. -/
theorem forall₂_zipWith {f : α → β → γ} {xs : List α} {ys : List β} (h : List.Forall₂ R xs ys)
    (hf : ∀ x y, R x y → T x (f x y)) : List.Forall₂ T xs (xs.zipWith f ys) := by
  induction h with
  | nil => exact .nil
  | cons hxy _ ih => exact .cons (hf _ _ hxy) ih

/-- What is aligned with two lists in a row falls into two parts. -/
theorem exists_append_of_forall₂ {xs xs' : List α} {ys : List β}
    (h : List.Forall₂ R (xs ++ xs') ys) :
    ∃ zs zs', ys = zs ++ zs' ∧ List.Forall₂ R xs zs ∧ List.Forall₂ R xs' zs' := by
  induction xs generalizing ys with
  | nil => exact ⟨[], ys, rfl, .nil, h⟩
  | cons x xs ih =>
    cases h with
    | cons hxy hrest =>
      obtain ⟨zs, zs', rfl, hfirst, hsecond⟩ := ih hrest
      exact ⟨_ :: zs, zs', rfl, .cons hxy hfirst, hsecond⟩

/-- A sum falls by at least the number of the marked elements, if the share of each of them falls
and no other share grows. -/
theorem sum_add_countP_le_of_forall₂ {f : α → Nat} {g : β → Nat} {p : α → Bool} {xs : List α}
    {ys : List β} (h : List.Forall₂ R xs ys) (hother : ∀ x y, R x y → g y ≤ f x)
    (hmarked : ∀ x y, R x y → p x = true → g y < f x) :
    (ys.map g).sum + xs.countP p ≤ (xs.map f).sum := by
  induction h with
  | nil => exact Nat.le_refl 0
  -- a marked element pays for itself, and any other one costs nothing
  | @cons x y _ _ hxy _ ih =>
    rw [List.map_cons, List.map_cons, List.sum_cons, List.sum_cons]
    cases hp : p x with
    | true =>
      rw [List.countP_cons_of_pos hp]
      have hlt := hmarked x y hxy hp
      omega
    | false =>
      rw [List.countP_cons_of_neg (by simp [hp])]
      have hle := hother x y hxy
      omega

/-- Where the first elements are selected as their partners are, and all the others are selected. -/
theorem countP_eq_of_first {p : α → Bool} {q : β → Bool} {xs : List α} {ys : List β}
    (hlength : ys.length ≤ xs.length)
    (hfirst : ∀ (i : Nat) (x : α) (y : β), xs[i]? = some x → ys[i]? = some y → p x = q y)
    (hrest : ∀ x ∈ xs.drop ys.length, p x = true) :
    xs.countP p = ys.countP q + (xs.length - ys.length) := by
  induction ys generalizing xs with
  | nil => simpa using List.countP_eq_length.mpr hrest
  | cons y ys ih =>
    cases xs with
    -- the first elements are paired off, so the rest is the same on both sides
    | nil => simp at hlength
    | cons x xs =>
      have htail := ih (Nat.le_of_succ_le_succ hlength)
        (fun i x' y' hx hy => hfirst (i + 1) x' y' hx hy) hrest
      have hhead : p x = q y := hfirst 0 x y rfl rfl
      rw [List.countP_cons, List.countP_cons, htail, hhead, List.length_cons, List.length_cons,
        Nat.add_sub_add_right]
      omega

section Filter

variable {p : α → Bool} {q : β → Bool} {xs : List α} {ys : List β}

/-- What is selected on the right side is selected on the left. -/
theorem length_filter_le_of_forall₂ (h : List.Forall₂ R xs ys)
    (hle : ∀ x y, R x y → q y = true → p x = true) :
    (ys.filter q).length ≤ (xs.filter p).length := by
  induction h with
  | nil => exact Nat.le_refl 0
  | @cons x y _ _ hxy _ ih =>
    cases hq : q y with
    | true =>
      rw [List.filter_cons_of_pos hq, List.filter_cons_of_pos (hle x y hxy hq)]
      exact Nat.succ_le_succ ih
    | false =>
      rw [List.filter_cons_of_neg (by simp [hq])]
      exact Nat.le_trans ih (((List.sublist_cons_self x _).filter p).length_le)

/-- Less is selected on the right side when the partner of something that is selected on the left
is not. -/
theorem length_filter_lt_of_forall₂ (h : List.Forall₂ R xs ys)
    (hle : ∀ x y, R x y → q y = true → p x = true) {x : α} (hx : x ∈ xs) (hp : p x = true)
    (hq : ∀ y, R x y → q y = false) : (ys.filter q).length < (xs.filter p).length := by
  induction h with
  | nil => simp at hx
  | @cons a b as bs hab hrest ih =>
    -- the strict step is made where the element stands, and before it the count does not grow
    rcases List.mem_cons.mp hx with rfl | hx
    · rw [List.filter_cons_of_pos hp, List.filter_cons_of_neg (by simp [hq b hab])]
      exact Nat.lt_succ_of_le (length_filter_le_of_forall₂ hrest hle)
    · have hlt := ih hx
      cases hqb : q b with
      | true =>
        rw [List.filter_cons_of_pos hqb, List.filter_cons_of_pos (hle a b hab hqb)]
        exact Nat.succ_lt_succ hlt
      | false =>
        rw [List.filter_cons_of_neg (by simp [hqb])]
        exact Nat.lt_of_lt_of_le hlt (((List.sublist_cons_self a as).filter p).length_le)

/-- Where just the elements that are selected on the left stay as they are and are selected on the
right, both selections are the same. -/
theorem filter_eq_of_forall₂ {R : α → α → Prop} {q : α → Bool} {ys : List α}
    (h : List.Forall₂ R xs ys) (hsame : ∀ x y, R x y → q y = p x ∧ (p x = true → y = x)) :
    ys.filter q = xs.filter p := by
  induction h with
  | nil => rfl
  | @cons x y _ _ hxy _ ih =>
    obtain ⟨hq, hy⟩ := hsame x y hxy
    cases hp : p x with
    | true => rw [List.filter_cons_of_pos (hq.trans hp), List.filter_cons_of_pos hp, hy hp, ih]
    | false =>
      rw [List.filter_cons_of_neg (by simp [hq, hp]), List.filter_cons_of_neg (by simp [hp]), ih]

end Filter

variable {ε : Type} {f : α → Except ε β} {xs : List α}

/-- A walk that meets no failure aligns its answers with its list. -/
theorem forall₂_of_mapM_ok {ys : List β} (h : xs.mapM f = .ok ys) :
    List.Forall₂ (fun x y => f x = .ok y) xs ys := by
  induction xs generalizing ys with
  | nil =>
    rw [List.mapM_nil] at h
    cases h
    exact .nil
  | cons x xs ih =>
    rw [List.mapM_cons] at h
    -- a failure at the head or further on would have been the answer of the walk
    cases hx : f x with
    | error e => simp [hx, bind, Except.bind] at h
    | ok y =>
      cases hxs : xs.mapM f with
      | error e => simp [hx, hxs, bind, Except.bind] at h
      | ok rest =>
        simp only [hx, hxs, bind, Except.bind, pure, Except.pure, Except.ok.injEq] at h
        subst h
        exact .cons hx (ih hxs)

/-- A walk that fails does so at one of the elements. -/
theorem exists_of_mapM_error {e : ε} (h : xs.mapM f = .error e) : ∃ x ∈ xs, f x = .error e := by
  induction xs with
  | nil => cases h
  | cons x xs ih =>
    rw [List.mapM_cons] at h
    cases hx : f x with
    | error e' =>
      simp only [hx, bind, Except.bind, Except.error.injEq] at h
      exact ⟨x, List.mem_cons_self, h ▸ hx⟩
    | ok y =>
      cases hxs : xs.mapM f with
      | error e' =>
        simp only [hx, hxs, bind, Except.bind, Except.error.injEq] at h
        obtain ⟨x', hx', heq⟩ := ih (h ▸ hxs)
        exact ⟨x', List.mem_cons_of_mem _ hx', heq⟩
      | ok ys => simp [hx, hxs, bind, Except.bind, pure, Except.pure] at h

end EventOutbox
