import EventOutbox.Proofs.Text.Digits
import EventOutbox.Settings.Environment
import Mathlib.Data.List.Induction

/-!
# What the environment sets

A number in decimal digits is read back from its variable, since lower case leaves digits alone and
no switch word has any.  When every variable that matters sets a field of a section, the variables
make a tree of two levels, with the text of the last variable that sets it under every field.

## Main statements

- `Settings.readWordNumber_decimal`
- `Settings.Environment.tree?_of_flat`
-/

namespace EventOutbox

/-! ## §1 Numbers as values of variables -/

namespace Text

/-- Digits have no case. -/
theorem lowerChar_of_isDigit {c : Char} (h : isDigit c = true) : lowerChar c = c := by
  have hcapital : ∀ r ∈ capitalRuns, 57 < r.1 := by decide +kernel
  have hmost : c.toNat ≤ 57 := (isDigit_iff.mp h).2
  simp only [lowerChar]
  split
  next lo hi step image hfind =>
    -- the runs of capitals lie behind the digits
    have hbeyond : 57 < lo := hcapital _ (List.mem_of_find?_eq_some hfind)
    have hwithin := List.find?_some hfind
    simp only [Bool.and_eq_true, decide_eq_true_eq] at hwithin
    omega
  next => rfl

theorem lowerChars_of_isDigit {before cs : List Char} (h : ∀ c ∈ cs, isDigit c = true) :
    lowerChars before cs = cs := by
  induction cs generalizing before with
  | nil => rfl
  | cons c cs ih =>
    have hdigit : isDigit c = true := h c List.mem_cons_self
    have hmost : c.toNat ≤ 57 := (isDigit_iff.mp hdigit).2
    -- digits are neither of the two letters that are lowered by what stands around them
    have hsigma : c.toNat ≠ 0x3A3 := by omega
    have hdotted : c.toNat ≠ 0x130 := by omega
    rw [lowerChars, if_neg hsigma, if_neg hdotted, lowerChar_of_isDigit hdigit,
      ih fun d hd => h d (List.mem_cons_of_mem c hd)]

/-- Digits are spelled alike in lower case. -/
theorem lowercase_of_isDigit {cs : List Char} (h : ∀ c ∈ cs, isDigit c = true) :
    lowercase (String.ofList cs) = String.ofList cs := by
  rw [lowercase, String.toList_ofList, lowerChars_of_isDigit h]

end Text

namespace Settings

open EventOutbox.Text

/-- Digits are no word that has a letter. -/
theorem ofList_notMem_words {cs : List Char} (h : ∀ c ∈ cs, isDigit c = true) {words : List String}
    (hwords : ∀ w ∈ words, w.toList.all isDigit = false) : String.ofList cs ∉ words := by
  intro hmem
  have hletter := hwords _ hmem
  rw [String.toList_ofList, List.all_eq_true.mpr h] at hletter
  cases hletter

/-- A number is read back from the variable that has its digits. -/
theorem readWordNumber_decimal (key : String) (n : UInt64) :
    readWordNumber key (String.ofList (decimal n.toNat)) = .ok n.toNat := by
  have hdigits : ∀ c ∈ decimal n.toNat, isDigit c = true := fun _ => isDigit_of_mem_decimal
  -- the words of switches have letters, so the digits are read as a number
  have hon : String.ofList (decimal n.toNat) ∉ onWords :=
    ofList_notMem_words hdigits (by decide)
  have hoff : String.ofList (decimal n.toNat) ∉ offWords :=
    ofList_notMem_words hdigits (by decide)
  have hmost : n.toNat ≤ 18446744073709551615 := Nat.le_of_lt_succ n.toNat_lt
  simp [readWordNumber, lowercase_of_isDigit hdigits, hon, hoff, readUnsigned_decimal hmost]

/-! ## §2 Variables in two levels -/

/-- Entries in two levels: a name under which some values are known has a section, and the values
stand in it under their own names. -/
def InSections {τ ν : Type} (section_ : List (String × τ) → τ) (value : ν → τ)
    (entries : List (String × τ)) (known : String → String → Option ν) : Prop :=
  ∀ s, (entries.lookup s = none ∧ ∀ f, known s f = none) ∨
    ∃ fs, entries.lookup s = some (section_ fs) ∧ ∀ f, fs.lookup f = (known s f).map value

namespace EnvTree

/-- What is put under a key is found there, and the other keys keep what they had. -/
theorem lookup_put {K : Type} [DecidableEq K] (key : K) (t : EnvTree)
    (entries : List (K × EnvTree)) (k : K) :
    (put key t entries).lookup k = if k = key then some t else entries.lookup k := by
  induction entries with
  | nil =>
    by_cases hk : k = key
    · simp [put, hk]
    · simp [put, List.lookup_cons, beq_false_of_ne hk, hk]
  | cons e entries ih =>
    obtain ⟨l, u⟩ := e
    by_cases hl : l = key
    · -- the entry of the key is replaced in place
      subst hl
      by_cases hk : k = l
      · simp [put, hk]
      · simp [put, List.lookup_cons, beq_false_of_ne hk, hk]
    · by_cases hk : k = l
      · subst hk
        simp [put, hl]
      · simpa [put, List.lookup_cons, hl, beq_false_of_ne hk] using ih

/-- Setting a field of a section. -/
theorem set?_field {es : List (String × EnvTree)} {known : String → String → Option String}
    (h : InSections .section_ .value es known) (text s f : String) :
    ∃ es', (EnvTree.section_ es).set? text [.name s, .name f] = some (.section_ es') ∧
      InSections .section_ .value es'
        fun s' f' => if s' = s ∧ f' = f then some text else known s' f' := by
  -- what the section had before, if there was one
  let below := (es.lookup s).getD .nothing
  refine ⟨put s (.section_ (put f (.value text) below.entries)) es, rfl, fun s' => ?_⟩
  by_cases hs : s' = s
  · subst hs
    refine .inr ⟨_, by rw [lookup_put, if_pos rfl], fun f' => ?_⟩
    rw [lookup_put]
    by_cases hf : f' = f
    · simp [hf]
    · -- the other fields stand as before, or there was no section yet
      rcases h s' with ⟨hnone, hknown⟩ | ⟨fs, hsome, hfs⟩
      · simp [below, hf, hnone, hknown, entries]
      · simp [below, hf, hsome, hfs, entries]
  · simpa [lookup_put, hs] using h s'

end EnvTree

namespace Environment

/-- The text that the environment has for a field of a section: that of the last variable that sets
it. -/
def textAt? (env : Environment) (s f : String) : Option String :=
  (env.reverse.find? fun v => placeOf? v.1 = some [.name s, .name f]).map Prod.snd

/-- Whether every variable that matters sets a field of a section. -/
def Flat (env : Environment) : Prop :=
  ∀ v ∈ env, placeOf? v.1 = none ∨ ∃ s f, placeOf? v.1 = some [.name s, .name f]

/-- Of a variable more, only the text of its own field changes. -/
theorem textAt?_concat (env : Environment) (v : String × String) (s f : String) :
    textAt? (env ++ [v]) s f =
      if placeOf? v.1 = some [.name s, .name f] then some v.2 else textAt? env s f := by
  by_cases hv : placeOf? v.1 = some [.name s, .name f] <;> simp [textAt?, hv]

theorem tree?_concat (env : Environment) (v : String × String) :
    tree? (env ++ [v]) = env.tree?.bind fun t =>
      match placeOf? v.1 with
      | some place => t.set? v.2 place
      | none => some t := by
  simp only [tree?, List.foldlM_append, List.foldlM_cons, List.foldlM_nil, bind_pure]
  rfl

/-- The environment makes a tree of two levels, in which every field has its text. -/
theorem tree?_of_flat {env : Environment} (h : env.Flat) :
    ∃ es, env.tree? = some (.section_ es) ∧ InSections .section_ .value es env.textAt? := by
  -- the last variable is set last
  induction env using List.reverseRecOn with
  | nil => exact ⟨[], rfl, fun s => .inl ⟨rfl, fun f => rfl⟩⟩
  | append_singleton env v ih =>
    obtain ⟨es, htree, hes⟩ := ih fun u hu => h u (List.mem_append_left [v] hu)
    have hstep : Environment.tree? (env ++ [v]) =
        match placeOf? v.1 with
        | some place => (EnvTree.section_ es).set? v.2 place
        | none => some (.section_ es) := by
      rw [tree?_concat, htree, Option.bind_some]
    -- a variable that sets nothing, and one that sets a field of a section
    rcases h v (List.mem_append_right env List.mem_cons_self) with hnone | ⟨s, f, hplace⟩
    · refine ⟨es, by rw [hstep, hnone], ?_⟩
      simpa [InSections, textAt?_concat, hnone] using hes
    · obtain ⟨es', hset, hes'⟩ := EnvTree.set?_field hes v.2 s f
      refine ⟨es', by rw [hstep, hplace]; exact hset, ?_⟩
      have htexts : (fun s' f' => if s' = s ∧ f' = f then some v.2 else textAt? env s' f') =
          textAt? (env ++ [v]) := by
        funext s' f'
        rw [textAt?_concat, hplace]
        simp [eq_comm]
      rwa [htexts] at hes'

end Environment

end Settings

end EventOutbox
