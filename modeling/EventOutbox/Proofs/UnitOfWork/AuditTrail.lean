import EventOutbox.Proofs.UnitOfWork.Settlement

/-!
# The audit fields of an entity over its life

Stamps are written before a commit reaches the store and are not taken back when it fails.  What the
audit fields say is still determined by the attempts to commit the entity: the first one that
succeeded tells of the creation, and the last one that was made for a change, successful or not,
tells of the modification.

## Main statements

- `UnitOfWork.commit_leaves`: what an attempt leaves of the tracked entities, whatever the store
  does.
- `Life.audit_eq`: the audit fields are what the attempts wrote, one after the other.
- `Life.audit_trail`: what they say, from the creation on.
-/

namespace EventOutbox

variable {κ W : Type} [EventCatalog κ]

/-! ## §1 Names -/

/-- The actor's name may be written down: it is authenticated and not blank. -/
def Actor.Attributable (p : Actor) : Prop :=
  p.authenticated = true ∧ Text.isBlank p.name = false

/-- The name is the one to be recorded for the actor: the actor's own if it may be written down, and
otherwise that of the system. -/
structure Actor.Recorded (actor : Option Actor) (name : String) : Prop where
  own : ∀ p, actor = some p → p.Attributable → name = p.name
  system : (∀ p, actor = some p → ¬ p.Attributable) → name = "System"
  visible : Text.isBlank name = false

/-- The name that is written down for an actor is the one to be recorded. -/
theorem Actor.recorded_auditName (actor : Option Actor) : Recorded actor (auditName actor) := by
  by_cases h : ∃ p, actor = some p ∧ p.Attributable
  · -- somebody acts whose name may be written down
    obtain ⟨p, rfl, hp⟩ := h
    have hname : auditName (some p) = p.name := by
      rw [auditName, hp.1, hp.2]
      rfl
    constructor
    case own => exact fun q hq _ => hname.trans (congrArg name (Option.some.inj hq))
    case system => exact fun hnone => absurd hp (hnone p rfl)
    case visible => rw [hname, hp.2]
  · -- nobody does, or somebody whose name may not
    have hname : auditName actor = "System" := by
      cases actor with
      | none => rfl
      | some p =>
        rw [auditName, if_neg, systemName]
        rw [Bool.and_eq_true, Bool.not_eq_true']
        exact fun hp => h ⟨p, rfl, hp⟩
    constructor
    case own => exact fun p hp hattributable => absurd ⟨p, hp, hattributable⟩ h
    case system => exact fun _ => hname
    case visible =>
      rw [hname]
      decide

/-! ## §2 Single attempts -/

namespace UnitOfWork

/-- Whether an attempt to commit is answered with success. -/
def succeeds (store : Committer W) (a : Attempt) (x : UnitOfWork κ × W) : Bool :=
  match ((commit store a).run x).1 with
  | .ok answer => answer.isOk
  | .error _ => false

/-- What an attempt leaves of the unit of work, by whether it succeeds. -/
inductive Leaves (a : Attempt) (u : UnitOfWork κ) : Bool → UnitOfWork κ → Prop where
  | cancelled (cancelled : a.cancelled = true) : Leaves a u false u
  | stamped (uncancelled : a.cancelled = false) : Leaves a u false (u.stamp a)
  | settled (uncancelled : a.cancelled = false) (versions : List (Option UInt64))
      (all : versions.length = u.tracked.length) : Leaves a u true ((u.stamp a).settle versions)

/-- Stamps add and remove no entities. -/
theorem length_stamp (a : Attempt) (u : UnitOfWork κ) :
    (u.stamp a).tracked.length = u.tracked.length :=
  List.length_map _

/-- The store has no access to the entities. -/
theorem focus_ensures {α : Type} (b : Action W α) (u : UnitOfWork κ) (w : W) :
    (worldCell.focus b).Ensures (u, w) (fun _ y => y.1 = u) fun y => y.1 = u := by
  rw [Action.ensures_world_iff]
  rfl

/-- A commit leaves the entities as they were, stamped, or settled, whatever store it is and
whatever that answers, and also when the run ends early. -/
theorem commit_leaves (store : Committer W) (a : Attempt) (u : UnitOfWork κ) (w : W) :
    Leaves a u (succeeds store a (u, w)) ((commit store a).run (u, w)).2.1 := by
  have hcommit : (commit store a).Ensures (u, w) (fun answer y => Leaves a u answer.isOk y.1)
      fun y => Leaves a u false y.1 := by
    rw [commit]
    cases hcancelled : a.cancelled with
    | true => exact .cancelled hcancelled
    | false =>
      rw [if_neg Bool.false_ne_true, Action.ensures_bind, Action.ensures_update,
        Action.ensures_bind, Action.ensures_ask]
      cases hgather : gather a (u.stamp a).tracked with
      | error e => exact .stamped hcancelled
      | ok changes =>
        cases hempty : changes.isEmpty with
        | true =>
          -- where nothing is to be written, settling would change nothing
          have hsettled := settle_of_settled (settled_of_empty hgather hempty)
          simp only [hempty, if_true, Action.ensures_pure]
          rw [← hsettled]
          exact .settled hcancelled _ (by rw [List.length_map, length_stamp])
        | false =>
          simp only [hempty, Bool.false_eq_true, if_false, Action.ensures_bind]
          have hrun := nextVersions_run hgather (u.stamp a, w)
          cases hversions : versions? (u.stamp a).tracked with
          | none =>
            rw [hversions] at hrun
            rw [Action.Ensures, hrun]
            exact .stamped hcancelled
          | some versions =>
            rw [hversions] at hrun
            refine Action.ensures_of_run_ok hrun ?_
            -- nothing is known of the store but that it does not reach the entities
            refine (focus_ensures _ _ w).mono (fun answer y hy => ?_) fun y hy => ?_
            · rcases answer with e | receipt
              · rw [Action.ensures_pure, hy]
                exact .stamped hcancelled
              · rw [Action.ensures_bind, Action.ensures_update, Action.ensures_pure, hy]
                exact .settled hcancelled versions
                  ((length_versions? hversions).trans (length_stamp a u))
            · -- the store ended the run, after the stamps were made
              rw [hy]
              exact .stamped hcancelled
  -- the answer of the run is what `succeeds` looks at
  rw [Action.Ensures] at hcommit
  rw [succeeds]
  split at hcommit <;> next heq => simpa only [heq] using hcommit

end UnitOfWork

/-- What an attempt leaves of one tracked entity, by whether it succeeds. -/
inductive Tracked.Leaves (a : Attempt) (t : Tracked κ) : Bool → Tracked κ → Prop where
  | cancelled (cancelled : a.cancelled = true) : Leaves a t false t
  | stamped (uncancelled : a.cancelled = false) :
      Leaves a t false (t.stamp a.now (Actor.auditName a.actor))
  | settled (uncancelled : a.cancelled = false) (version : Option UInt64) :
      Leaves a t true ((t.stamp a.now (Actor.auditName a.actor)).settle version)

/-- An entity keeps its place in the unit of work. -/
theorem UnitOfWork.Leaves.at_place {a : Attempt} {ts ts' : List (Tracked κ)} {t : Tracked κ}
    {succeeded : Bool} {u' : UnitOfWork κ} (h : Leaves a ⟨ts ++ t :: ts'⟩ succeeded u') :
    ∃ t', u'.tracked[ts.length]? = some t' ∧ t.Leaves a succeeded t' := by
  have hplace : (ts ++ t :: ts')[ts.length]? = some t := by simp
  cases h with
  | cancelled cancelled => exact ⟨t, hplace, .cancelled cancelled⟩
  | stamped uncancelled =>
    refine ⟨_, ?_, .stamped uncancelled⟩
    rw [stamp, List.getElem?_map, hplace]
    rfl
  | settled uncancelled versions all =>
    -- there is a version for every entity, so none falls out of the list
    have hlength : ts.length < versions.length := by
      rw [all, List.length_append, List.length_cons]
      omega
    refine ⟨_, ?_, .settled uncancelled versions[ts.length]⟩
    rw [settle, List.getElem?_zipWith, stamp, List.getElem?_map, hplace,
      List.getElem?_eq_getElem hlength]
    rfl

/-- An attempt that succeeds leaves the entity unchanged, and any other one leaves its state. -/
theorem Tracked.Leaves.state {a : Attempt} {t t' : Tracked κ} {succeeded : Bool}
    (h : t.Leaves a succeeded t') : t'.state = if succeeded then .unchanged else t.state := by
  cases h <;> rfl

/-- No cancelled attempt succeeds. -/
theorem Tracked.Leaves.uncancelled {a : Attempt} {t t' : Tracked κ} (h : t.Leaves a true t') :
    a.cancelled = false := by
  cases h with
  | settled uncancelled version => exact uncancelled

/-- A commit leaves each entity in its place, as one of the three. -/
theorem UnitOfWork.tracked_commit (store : Committer W) (a : Attempt) (ts : List (Tracked κ))
    (t : Tracked κ) (ts' : List (Tracked κ)) (w : W) :
    ∃ t', ((commit store a).run (⟨ts ++ t :: ts'⟩, w)).2.1.tracked[ts.length]? = some t' ∧
      t.Leaves a (succeeds store a (⟨ts ++ t :: ts'⟩, w)) t' :=
  (commit_leaves store a _ w).at_place

/-- What stands in the place of an entity after an attempt is what the attempt left of it. -/
theorem UnitOfWork.leaves_of_place {store : Committer W} {a : Attempt} {ts ts' : List (Tracked κ)}
    {t t' : Tracked κ} {w : W}
    (h : ((commit store a).run (⟨ts ++ t :: ts'⟩, w)).2.1.tracked[ts.length]? = some t') :
    t.Leaves a (succeeds store a (⟨ts ++ t :: ts'⟩, w)) t' := by
  obtain ⟨t'', hplace, hleaves⟩ := tracked_commit store a ts t ts' w
  obtain rfl : t'' = t' := Option.some.inj (hplace.symm.trans h)
  exact hleaves

/-! ## §3 Lives -/

/-- An attempt to commit an entity, as it is remembered: how the entity was registered with the unit
of work, whether that was committed before, and whether the attempt succeeded. -/
structure Try where
  attempt : Attempt
  registered : TrackState
  committed : Bool
  succeeded : Bool

namespace Try

/-- The name that the attempt writes. -/
def name (x : Try) : String :=
  Actor.auditName x.attempt.actor

/-- The attempt is made for a creation. -/
def Creates (x : Try) : Prop :=
  x.registered = .added ∧ x.committed = false

/-- The attempt is made for a change, and is not cancelled. -/
def changes (x : Try) : Bool :=
  x.registered = .modified && !x.committed && !x.attempt.cancelled

/-- What the attempt makes of the audit fields. -/
def mark (audit : Audit) (x : Try) : Audit :=
  if x.attempt.cancelled || x.committed then audit
  else match x.registered with
    | .added => audit.stampCreated x.attempt.now x.name
    | .modified => audit.stampModified x.attempt.now x.name
    | .unchanged => audit

/-- The attempt that tells of the last modification, where `first` is the creation. -/
def lastChange (first : Try) (after : List Try) : Try :=
  ((after.filter changes).getLast?).getD first

end Try

/-- The audit fields name someone. -/
def Audit.Names (audit : Audit) (name : String) : Prop :=
  audit.createdBy = some name ∨ audit.modifiedBy = some name

/-- Audit fields that tell of a creation and of a modification. -/
def Audit.telling (creation modification : Try) : Audit where
  createdBy := some creation.name
  createdAt := some creation.attempt.now
  modifiedBy := some modification.name
  modifiedAt := some modification.attempt.now

/-- The life of an entity: the attempts to commit it so far, how it is registered now and whether
that was committed, and the entity itself.  It is registered as new until an attempt succeeds, and
never afterwards. -/
inductive Life (W : Type) (start : Audit) : List Try → TrackState → Bool → Tracked κ → Prop where
  | begins (x : Entity κ) (auditable : x.audit = some start) :
      Life W start [] .added false ⟨x, .added⟩
  /-- The entity changes by itself.  It never sets audit fields. -/
  | edited {tries r committed t} (before : Life W start tries r committed t) (x : Entity κ)
      (same : x.audit = t.entity.audit) : Life W start tries r committed ⟨x, t.state⟩
  /-- The entity is registered with another unit of work. -/
  | registered {tries r committed t} (before : Life W start tries r committed t) (r' : TrackState)
      (fits : r' = .added ↔ ∀ x ∈ tries, x.succeeded = false) :
      Life W start tries r' false ⟨t.entity, r'⟩
  /-- An attempt is made to commit the entity among others, in any world. -/
  | tried {tries r committed t} (before : Life W start tries r committed t) (store : Committer W)
      (a : Attempt) (ts ts' : List (Tracked κ)) (w : W) (t' : Tracked κ)
      (left : ((UnitOfWork.commit store a).run (⟨ts ++ t :: ts'⟩, w)).2.1.tracked[ts.length]? =
        some t') :
      Life W start
        (tries ++ [⟨a, r, committed, UnitOfWork.succeeds store a (⟨ts ++ t :: ts'⟩, w)⟩]) r
        (committed || UnitOfWork.succeeds store a (⟨ts ++ t :: ts'⟩, w)) t'

/-! ## §4 Marks -/

namespace Try

/-- The attempt that is told of moves on with every change. -/
theorem lastChange_cons (first x : Try) (after : List Try) :
    lastChange first (x :: after) = lastChange (if x.changes then x else first) after := by
  rw [lastChange, lastChange, List.filter_cons]
  split
  · rw [List.getLast?_cons, Option.getD_some]
  · rfl

/-- An uncancelled creation overwrites all four fields. -/
theorem mark_of_creates {x : Try} (creates : x.Creates) (uncancelled : x.attempt.cancelled = false)
    (audit : Audit) : mark audit x = .telling x x := by
  rw [mark, uncancelled, creates.1, creates.2]
  rfl

/-- Any other attempt marks the entity only if it is a change. -/
theorem mark_of_not_creates {x : Try} (h : ¬ x.Creates) (audit : Audit) :
    mark audit x = if x.changes then audit.stampModified x.attempt.now x.name else audit := by
  obtain ⟨⟨actor, transactionId, cancelled, now⟩, registered, committed, succeeded⟩ := x
  -- only an uncommitted addition is excluded; both sides agree on each of the others
  cases cancelled <;> cases committed <;> cases registered <;>
    first | rfl | exact absurd ⟨rfl, rfl⟩ h

/-- After the creation, only changes are marked. -/
theorem foldl_mark {after : List Try} (h : ∀ x ∈ after, ¬ x.Creates) (first last : Try) :
    after.foldl mark (.telling first last) = .telling first (lastChange last after) := by
  -- from the front, so that the last change so far is carried along
  induction after generalizing last with
  | nil => rfl
  | cons x after ih =>
    obtain ⟨hx, hafter⟩ := List.forall_mem_cons.mp h
    rw [List.foldl_cons, mark_of_not_creates hx, lastChange_cons]
    cases x.changes with
    | true => exact ih hafter x
    | false => exact ih hafter last

/-- A mark writes no other name than that of its attempt. -/
theorem names_of_mark {audit : Audit} {x : Try} {name : String}
    (h : (mark audit x).Names name) : audit.Names name ∨ name = x.name := by
  rw [mark] at h
  split at h
  · exact .inl h
  -- which fields are written depends on what the entity was registered as
  · cases hregistered : x.registered with
    | added =>
      rw [hregistered] at h
      rcases h with h | h <;> exact .inr (Option.some.inj h).symm
    | modified =>
      rw [hregistered] at h
      rcases h with h | h
      · exact .inl (.inl h)
      · exact .inr (Option.some.inj h).symm
    | unchanged =>
      rw [hregistered] at h
      exact .inl h

/-- Whoever the audit fields name was named at the start or made one of the attempts. -/
theorem names_of_foldl_mark {tries : List Try} {start : Audit} {name : String}
    (h : (tries.foldl mark start).Names name) : start.Names name ∨ ∃ x ∈ tries, name = x.name := by
  -- the induction follows the fold, so that the first attempt becomes the start
  induction tries generalizing start with
  | nil => exact .inl h
  | cons x tries ih =>
    rcases ih h with h | ⟨y, hy, hname⟩
    · exact (names_of_mark h).imp_right fun hname => ⟨x, List.mem_cons_self, hname⟩
    · exact .inr ⟨y, List.mem_cons_of_mem x hy, hname⟩

end Try

/-- An attempt marks the audit fields by what the entity is tracked as. -/
theorem Tracked.Leaves.audit {x : Try} {t t' : Tracked κ}
    (h : t.Leaves x.attempt x.succeeded t')
    (hstate : t.state = if x.committed then .unchanged else x.registered) :
    t'.entity.audit = t.entity.audit.map fun audit => Try.mark audit x := by
  -- once the flags of the attempt are known, both sides compute to the same fields
  obtain ⟨⟨actor, transactionId, cancelled, now⟩, registered, committed, succeeded⟩ := x
  obtain ⟨entity, state⟩ := t
  obtain rfl := hstate
  cases h with
  | cancelled h =>
    obtain rfl : cancelled = true := h
    exact Option.map_id'.symm
  | stamped h =>
    obtain rfl : cancelled = false := h
    cases committed <;> rfl
  | settled h version =>
    obtain rfl : cancelled = false := h
    cases committed <;> rfl

/-! ## §5 The trail -/

namespace Life

variable {start : Audit} {tries : List Try} {r : TrackState} {committed : Bool} {t : Tracked κ}

/-- What the unit of work holds the entity to be. -/
theorem state_eq (life : Life W start tries r committed t) :
    t.state = if committed then .unchanged else r := by
  induction life with
  | begins => rfl
  | edited _ _ _ ih => exact ih
  | registered => rfl
  -- only a new attempt can change the state, and it does so just when it succeeds
  | @tried tries r committed t _ store a ts ts' w t' left ih =>
    rw [(UnitOfWork.leaves_of_place left).state, ih]
    cases UnitOfWork.succeeds store a (⟨ts ++ t :: ts'⟩, w) <;> cases committed <;> rfl

/-- The audit fields are what the attempts made of them, one after the other. -/
theorem audit_eq (life : Life W start tries r committed t) :
    t.entity.audit = some (tries.foldl Try.mark start) := by
  induction life with
  | begins _ auditable => exact auditable
  | edited _ _ same ih => exact same.trans ih
  | registered _ _ _ ih => exact ih
  -- only a new attempt writes to the fields
  | @tried tries r committed t before store a ts ts' w t' left ih =>
    have hmark := Tracked.Leaves.audit (x := ⟨a, r, committed, _⟩)
      (UnitOfWork.leaves_of_place left) before.state_eq
    rw [hmark, ih, List.foldl_append]
    rfl

/-- No cancelled attempt succeeds. -/
theorem uncancelled (life : Life W start tries r committed t) :
    ∀ x ∈ tries, x.succeeded = true → x.attempt.cancelled = false := by
  induction life with
  | begins => simp
  | edited _ _ _ ih => exact ih
  | registered _ _ _ ih => exact ih
  | @tried tries r committed t before store a ts ts' w t' left ih =>
    have hleaves := UnitOfWork.leaves_of_place left
    rw [List.forall_mem_append, List.forall_mem_singleton]
    refine ⟨ih, fun hsucceeded => ?_⟩
    dsimp only at hsucceeded
    rw [hsucceeded] at hleaves
    exact hleaves.uncancelled

/-- The entity is about to be created as long as no attempt succeeded. -/
theorem creates_iff (life : Life W start tries r committed t) :
    r = .added ∧ committed = false ↔ ∀ x ∈ tries, x.succeeded = false := by
  induction life with
  | begins => simp
  | edited _ _ _ ih => exact ih
  | registered _ _ fits _ => simpa using fits
  | tried _ _ _ _ _ _ _ _ ih =>
    rw [List.forall_mem_append, List.forall_mem_singleton, ← ih, Bool.or_eq_false_iff, and_assoc]

/-- An attempt is made for the creation as long as none before it succeeded. -/
theorem creates_try_iff (life : Life W start tries r committed t) {before after : List Try}
    {x : Try} (split : tries = before ++ x :: after) :
    x.Creates ↔ ∀ y ∈ before, y.succeeded = false := by
  induction life generalizing after with
  | begins => simp at split
  | edited _ _ _ ih => exact ih split
  | registered _ _ _ ih => exact ih split
  | tried life _ _ _ _ _ _ _ ih =>
    -- the attempt is the one that was just made, or one of those before
    rcases after.eq_nil_or_concat with rfl | ⟨after, y, rfl⟩
    · obtain ⟨rfl, hx⟩ := List.append_inj' split rfl
      cases hx
      exact life.creates_iff
    · rw [List.concat_eq_append, ← List.cons_append, ← List.append_assoc] at split
      exact ih (List.append_inj' split rfl).1

/-- What the audit fields tell of a life. -/
structure Trail (W : Type) (start : Audit) (tries : List Try) (r : TrackState) (committed : Bool)
    (t : Tracked κ) : Prop where
  /-- The first attempt that succeeded is the creation, whatever was tried before and is tried
  afterwards. -/
  told : ∀ before first after, tries = before ++ first :: after →
    (∀ x ∈ before, x.succeeded = false) → first.succeeded = true →
    t.entity.audit = some (.telling first (Try.lastChange first after))
  /-- No attempt loses the entity, and one that finds it unchanged touches none of the fields. -/
  next : ∀ (store : Committer W) (a : Attempt) (ts ts' : List (Tracked κ)) (w : W), ∃ t',
    ((UnitOfWork.commit store a).run (⟨ts ++ t :: ts'⟩, w)).2.1.tracked[ts.length]? = some t' ∧
      (r = .unchanged ∨ committed = true → t'.entity.audit = t.entity.audit)
  recorded : ∀ x ∈ tries, Actor.Recorded x.attempt.actor x.name
  named : ∀ audit, t.entity.audit = some audit → ∀ name, audit.Names name →
    start.Names name ∨ ∃ x ∈ tries, name = x.name

/-- Whatever stores the attempts were made on, whatever else was committed with the entity, and
however they ended: the audit fields tell of the first success and of the last change. -/
theorem audit_trail (life : Life W start tries r committed t) :
    Trail W start tries r committed t := by
  constructor
  case told =>
    intro before first after split failures succeeded
    have hafter : ∀ x ∈ after, ¬ x.Creates := by
      intro x hx hcreates
      -- the creation has succeeded by then
      obtain ⟨between, rest, rfl⟩ := List.append_of_mem hx
      rw [← List.cons_append, ← List.append_assoc] at split
      have hfirst := (life.creates_try_iff split).mp hcreates first (by simp)
      rw [succeeded] at hfirst
      cases hfirst
    have hcreates : first.Creates := (life.creates_try_iff split).mpr failures
    have huncancelled := life.uncancelled first (by simp [split]) succeeded
    rw [life.audit_eq, split, List.foldl_append, List.foldl_cons,
      Try.mark_of_creates hcreates huncancelled, Try.foldl_mark hafter]
  case next =>
    intro store a ts ts' w
    obtain ⟨t', hplace, hleaves⟩ := UnitOfWork.tracked_commit store a ts t ts' w
    refine ⟨t', hplace, fun hunchanged => ?_⟩
    have hmark := Tracked.Leaves.audit (x := ⟨a, r, committed, _⟩) hleaves life.state_eq
    rw [hmark]
    -- an entity that is found unchanged is not marked, whoever attempts it
    rcases hunchanged with rfl | rfl <;> simp [Try.mark]
  case recorded => exact fun x _ => Actor.recorded_auditName x.attempt.actor
  case named =>
    intro audit haudit name hname
    rw [life.audit_eq] at haudit
    cases haudit
    exact Try.names_of_foldl_mark hname

/-- An item of the shop with given audit fields. -/
private def lamp (version : UInt64) (events : List (Event Shop.Kind)) (audit : Audit) :
    Entity Shop.Kind :=
  { Shop.item "1" version events with audit := some audit }

private def visit (name : String) (second : Fin 60) (cancelled : Bool) : Attempt where
  actor := some ⟨name, true⟩
  transactionId := Uuid.ofNat 9
  cancelled := cancelled
  now := { Shop.opening with second }

/-- A store whose next commit fails. -/
private def fullDisk : Store :=
  Store.failNextCommit (.database "disk full") {}

private def stampedAt (creator : String) (created : Fin 60) (modifier : String)
    (modified : Fin 60) : Audit :=
  ⟨some creator, some { Shop.opening with second := created }, some modifier,
    some { Shop.opening with second := modified }⟩

/-- Alice's attempt fails, and one under a blank name creates the item.  Carol's change fails and
Dave's is cancelled; after that Erin finds the item unchanged. -/
theorem stamps_of_failed_attempt_stay : ∃ tries, ∃ t : Tracked Shop.Kind,
    Life Store {} tries .unchanged true t ∧
    tries.map Try.succeeded = [false, true, false, false, true] ∧
    t.entity.audit = some (stampedAt "System" 2 "carol" 3) := by
  have born : Life Store {} [] .added false ⟨lamp 0 [Shop.created 1] {}, .added⟩ :=
    .begins _ rfl
  have alice := born.tried (Store.committer .whole) (visit "alice" 1 false) [] [] fullDisk
    ⟨lamp 0 [Shop.created 1] (stampedAt "alice" 1 "alice" 1), .added⟩ rfl
  have blank := alice.tried (Store.committer .whole) (visit " " 2 false) [] [] {}
    ⟨lamp 1 [] (stampedAt "System" 2 "System" 2), .unchanged⟩ rfl
  have carol := (blank.registered .modified (by decide)).tried (Store.committer .whole)
    (visit "carol" 3 false) [] [] fullDisk
    ⟨lamp 1 [] (stampedAt "System" 2 "carol" 3), .modified⟩ rfl
  have dave := carol.tried (Store.committer .whole) (visit "dave" 4 true) [] [] {}
    ⟨lamp 1 [] (stampedAt "System" 2 "carol" 3), .modified⟩ rfl
  have erin := (dave.registered .unchanged (by decide)).tried (Store.committer .whole)
    (visit "erin" 5 false) [] [] {}
    ⟨lamp 1 [] (stampedAt "System" 2 "carol" 3), .unchanged⟩ rfl
  exact ⟨_, _, erin, by decide, (audit_trail erin).told [_] _ [_, _, _] rfl (by decide) (by decide)⟩

end Life

end EventOutbox
