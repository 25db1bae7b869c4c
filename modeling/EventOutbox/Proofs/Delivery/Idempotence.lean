import EventOutbox.Delivery.Handler
import EventOutbox.Proofs.ActionLogic
import EventOutbox.Proofs.Store.Ledger
import EventOutbox.Shop
import EventOutbox.Simulation.World
import Mathlib.Logic.Function.Basic

/-!
# Idempotent handlers over a ledger that may fail

A handler in its idempotent form, on any ledger that is a set of keys.  Every call of the ledger and
of the handler itself may fail.  An event is handled once too often for each time that the handler
succeeds and the ledger cannot record it, and never otherwise.  The balance is an invariant of
the run, to which every delivery contributes in one of six ways.

## Main statements

- `Handler.exists_passage`: how one delivery goes.
- `Handler.Visits.balanced`: the balance of successes, lost records and keys.
- `Handler.once_per_loss`: everything that holds of a run of deliveries.
-/

namespace EventOutbox

variable {W κ : Type} [EventCatalog κ]

/-! ## §1 Ledgers -/

/-- The ledger is a set of keys: an answer of `contains` tells whether a key is there, and an answer
of `record` means that the key is there now.  A call that fails changes no key. -/
structure LedgerAccess.KeepsKeys (ledger : LedgerAccess W) (holds : W → LedgerKey → Bool) :
    Prop where
  contains : ∀ id consumer w, ∃ answer w',
    (ledger.contains id consumer).run w = (.ok answer, w') ∧ holds w' = holds w ∧
      ∀ found, answer = .ok found → found = holds w (id, consumer)
  record : ∀ id consumer w, ∃ answer w',
    (ledger.record id consumer).run w = (.ok answer, w') ∧
      (∀ f, answer = .error f → holds w' = holds w) ∧
      ∀ a, answer = .ok a → holds w' = Function.update (holds w) (id, consumer) true

/-- The ledger of a store never fails. -/
theorem Store.keepsKeys_ledgerAccess (cell : Cell W Store) (clock : W → Instant) :
    (Store.ledgerAccess cell clock).KeepsKeys fun w => (cell.get w).ledger.contains where
  -- the table is only looked at
  contains := fun _ _ w => ⟨_, w, rfl, rfl, fun found hfound => by cases hfound; rfl⟩
  record := by
    intro id consumer w
    obtain ⟨answer, table, hrun, hkeys⟩ :=
      Store.recordConsumer_run (cell.get w) id consumer (clock w)
    have hfocus : (cell.focus (Store.recordConsumer id consumer (clock w))).run w =
        (.ok answer, cell.set { cell.get w with ledger := table } w) := by
      rw [Action.run_focus, hrun]
    refine ⟨.ok answer, cell.set { cell.get w with ledger := table } w, ?_, nofun, fun _ _ => ?_⟩
    · dsimp only [Store.ledgerAccess]
      rw [Action.run_bind_of_ok (Action.run_ask _ w), Action.run_bind_of_ok hfocus]
      rfl
    · funext k
      -- the table holds what it held, and the new key besides
      rw [cell.get_set, Bool.eq_iff_iff, hkeys, Function.update_apply]
      by_cases hk : k = (id, consumer) <;> simp [hk]

/-! ## §2 Watched handlers -/

/-- What is noted about a delivery. -/
inductive Entry where
  | looked (key : LedgerKey) (answer : Except Failure Bool)
  | invoked (id : Uuid)
  | returned (id : Uuid) (answer : Except Failure Unit)
  | recorded (key : LedgerKey) (answer : Except Failure LedgerAnswer)

/-- The handler succeeds on an event. -/
def Entry.succeeds (id : Uuid) : Entry → Bool
  | .returned i (.ok _) => i = id
  | _ => false

/-- The ledger fails to record a key. -/
def Entry.loses (key : LedgerKey) : Entry → Bool
  | .recorded k (.error _) => k = key
  | _ => false

/-- A world and the notes so far. -/
structure Watched (W : Type) where
  world : W
  notes : List Entry := []

namespace Watched

/-- The world without the notes. -/
def worldCell : Cell (Watched W) W where
  get w := w.world
  set x w := { w with world := x }
  get_set _ _ := rfl
  set_get _ := rfl
  set_set _ _ _ := rfl

/-- Write a note. -/
def note (e : Entry) : Action (Watched W) Unit :=
  .update fun w => { w with notes := w.notes ++ [e] }

/-- The ledger with its answers noted. -/
def ledger (inner : LedgerAccess W) : LedgerAccess (Watched W) where
  contains id consumer := do
    let answer ← worldCell.focus (inner.contains id consumer)
    note (.looked (id, consumer) answer)
    pure answer
  record id consumer := do
    let answer ← worldCell.focus (inner.record id consumer)
    note (.recorded (id, consumer) answer)
    pure answer

/-- The handler with its calls and its answers noted. -/
def handler {kind : κ} (inner : Handler W kind) : Handler (Watched W) kind where
  name := inner.name
  handle body := do
    let id := (EventCatalog.schema kind).id body
    note (.invoked id)
    let answer ← worldCell.focus (inner.handle body)
    note (.returned id answer)
    pure answer

theorem note_run (e : Entry) (w : Watched W) :
    (note e).run w = (.ok (), { w with notes := w.notes ++ [e] }) := rfl

/-- What runs in the world alone leaves the notes as they are. -/
theorem focus_run {α : Type} {a : Action W α} {result : Except Abort α} {w w' : W}
    (h : a.run w = (result, w')) (notes : List Entry) :
    (worldCell.focus a).run ⟨w, notes⟩ = (result, ⟨w', notes⟩) := by
  rw [Action.run_focus]
  show ((a.run w).1, (⟨(a.run w).2, notes⟩ : Watched W)) = _
  rw [h]

/-- The look-up of the watched ledger is that of the ledger, with its answer noted. -/
theorem contains_run {inner : LedgerAccess W} {id : Uuid} {consumer : String} {w w' : W}
    {answer : Except Failure Bool} (h : (inner.contains id consumer).run w = (.ok answer, w'))
    (notes : List Entry) : ((ledger inner).contains id consumer).run ⟨w, notes⟩ =
      (.ok answer, ⟨w', notes ++ [.looked (id, consumer) answer]⟩) := by
  rw [ledger, Action.run_bind_of_ok (focus_run h notes)]
  rfl

/-- The record of the watched ledger is that of the ledger, with its answer noted. -/
theorem record_run {inner : LedgerAccess W} {id : Uuid} {consumer : String} {w w' : W}
    {answer : Except Failure LedgerAnswer}
    (h : (inner.record id consumer).run w = (.ok answer, w')) (notes : List Entry) :
    ((ledger inner).record id consumer).run ⟨w, notes⟩ =
      (.ok answer, ⟨w', notes ++ [.recorded (id, consumer) answer]⟩) := by
  rw [ledger, Action.run_bind_of_ok (focus_run h notes)]
  rfl

section

variable {kind : κ} {inner : Handler W kind} {body : EventBody kind} {w w' : W}

/-- A handler that answers is noted twice: when it is called, and with its answer. -/
theorem handle_run {answer : Except Failure Unit}
    (h : (inner.handle body).run w = (.ok answer, w')) (notes : List Entry) :
    ((handler inner).handle body).run ⟨w, notes⟩ = (.ok answer, ⟨w', notes ++
      [.invoked ((EventCatalog.schema kind).id body),
        .returned ((EventCatalog.schema kind).id body) answer]⟩) := by
  dsimp only [handler]
  rw [Action.run_bind_of_ok (note_run _ _), Action.run_bind_of_ok (focus_run h _),
    Action.run_bind_of_ok (note_run _ _), Action.run_pure, List.append_assoc]
  rfl

/-- A handler that never answers is noted only once. -/
theorem handle_run_aborted {e : Abort} (h : (inner.handle body).run w = (.error e, w'))
    (notes : List Entry) : ((handler inner).handle body).run ⟨w, notes⟩ =
      (.error e, ⟨w', notes ++ [.invoked ((EventCatalog.schema kind).id body)]⟩) := by
  dsimp only [handler]
  rw [Action.run_bind_of_ok (note_run _ _), Action.run_bind_of_error (focus_run h _)]

end

end Watched

/-! ## §3 Single deliveries -/

/-- A delivery of an event: what is noted about it, and what the handler answers. -/
structure Visit where
  id : Uuid
  notes : List Entry
  answer : Except Abort (Except Failure Unit)

namespace Handler

variable {kind : κ}

/-- The idempotent form of a handler asks the ledger first and tells it last. -/
theorem idempotent_run (ledger : LedgerAccess W) (inner : Handler W kind) (body : EventBody kind)
    (w : W) : ((inner.idempotent ledger).handle body).run w =
      match (ledger.contains ((EventCatalog.schema kind).id body) inner.name).run w with
      | (.error e, w₁) => (.error e, w₁)
      | (.ok (.error f), w₁) => (.ok (.error f), w₁)
      | (.ok (.ok true), w₁) => (.ok (.ok ()), w₁)
      | (.ok (.ok false), w₁) =>
        match (inner.handle body).run w₁ with
        | (.error e, w₂) => (.error e, w₂)
        | (.ok (.error f), w₂) => (.ok (.error f), w₂)
        | (.ok (.ok ()), w₂) =>
          match (ledger.record ((EventCatalog.schema kind).id body) inner.name).run w₂ with
          | (.error e, w₃) => (.error e, w₃)
          | (.ok (.error f), w₃) => (.ok (.error f), w₃)
          | (.ok (.ok _), w₃) => (.ok (.ok ()), w₃) := by
  dsimp only [idempotent]
  -- the three calls are taken one at a time, and each that does not succeed ends the delivery
  rw [Action.run_bind]
  rcases (ledger.contains ((EventCatalog.schema kind).id body) inner.name).run w with
    ⟨e | f | _ | _, w₁⟩
  · rfl
  · rfl
  · dsimp only
    rw [Action.run_bind]
    rcases (inner.handle body).run w₁ with ⟨e | f | _, w₂⟩
    · rfl
    · rfl
    · dsimp only
      rw [Action.run_bind]
      rcases (ledger.record ((EventCatalog.schema kind).id body) inner.name).run w₂ with
        ⟨e | f | _, w₃⟩ <;> rfl
  · rfl

/-- The delivery of an event to the idempotent form of a handler. -/
def visit (ledger : LedgerAccess W) (inner : Handler W kind) (body : EventBody kind) (w : W) :
    Visit where
  id := (EventCatalog.schema kind).id body
  notes := ((((Watched.handler inner).idempotent (Watched.ledger ledger)).handle body).run
    ⟨w, []⟩).2.notes
  answer := (((inner.idempotent ledger).handle body).run w).1

/-- How a delivery goes: what is noted, the answer, and the identifiers whose keys are in the ledger
before and afterwards. -/
inductive Passage (name : String) (id : Uuid) (before after : Uuid → Bool) :
    List Entry → Except Abort (Except Failure Unit) → Prop where
  /-- The ledger does not tell. -/
  | unchecked (f) (same : after = before) :
      Passage name id before after [.looked (id, name) (.error f)] (.ok (.error f))
  /-- The key is there, and the event is skipped. -/
  | skipped (known : before id = true) (same : after = before) :
      Passage name id before after [.looked (id, name) (.ok true)] (.ok (.ok ()))
  /-- The handler fails. -/
  | failed (f) (new : before id = false) (same : after = before) :
      Passage name id before after
        [.looked (id, name) (.ok false), .invoked id, .returned id (.error f)] (.ok (.error f))
  /-- The run ends early within the handler. -/
  | aborted (e) (new : before id = false) (same : after = before) :
      Passage name id before after [.looked (id, name) (.ok false), .invoked id] (.error e)
  /-- The handler succeeds, and the ledger cannot record it. -/
  | lost (f) (new : before id = false) (same : after = before) :
      Passage name id before after
        [.looked (id, name) (.ok false), .invoked id, .returned id (.ok ()),
          .recorded (id, name) (.error f)] (.ok (.error f))
  /-- The handler succeeds, and the ledger records it. -/
  | recorded (a) (new : before id = false) (kept : after = Function.update before id true) :
      Passage name id before after
        [.looked (id, name) (.ok false), .invoked id, .returned id (.ok ()),
          .recorded (id, name) (.ok a)] (.ok (.ok ()))

/-- The identifiers whose keys with a name are held. -/
def owned (holds : W → LedgerKey → Bool) (name : String) (w : W) (id : Uuid) : Bool :=
  holds w (id, name)

/-- The keys of one name are as they were when all keys are. -/
theorem owned_congr {holds : W → LedgerKey → Bool} {w w' : W} (h : holds w' = holds w)
    (name : String) : owned holds name w' = owned holds name w := by
  funext id
  rw [owned, h, owned]

/-- A new key of the name adds its identifier to those held. -/
theorem owned_update {holds : W → LedgerKey → Bool} {name : String} {id : Uuid} {w w' : W}
    (h : holds w' = Function.update (holds w) (id, name) true) :
    owned holds name w' = Function.update (owned holds name w) id true := by
  funext j
  rw [owned, h]
  by_cases hj : j = id
  · subst hj
    rw [Function.update_self, Function.update_self]
  · rw [Function.update_of_ne hj, Function.update_of_ne fun hkey => hj (Prod.ext_iff.mp hkey).1]
    rfl

/-- Handling an event leaves the rows alone that carry the name of the handler. -/
def SparesOwn (holds : W → LedgerKey → Bool) (inner : Handler W kind) : Prop :=
  ∀ body w, owned holds inner.name ((inner.handle body).run w).2 = owned holds inner.name w

variable {ledger : LedgerAccess W} {holds : W → LedgerKey → Bool} {inner : Handler W kind}

/-- A delivery goes in one of the six ways, whatever calls fail, and watching it changes neither its
answer nor the world. -/
theorem exists_passage (hledger : ledger.KeepsKeys holds) (hspares : inner.SparesOwn holds)
    (body : EventBody kind) (w : W) : ∃ notes answer w',
      Passage inner.name ((EventCatalog.schema kind).id body) (owned holds inner.name w)
        (owned holds inner.name w') notes answer ∧
      ((inner.idempotent ledger).handle body).run w = (answer, w') ∧
      (((Watched.handler inner).idempotent (Watched.ledger ledger)).handle body).run ⟨w, []⟩ =
        (answer, ⟨w', notes⟩) := by
  have hname : (Watched.handler inner).name = inner.name := rfl
  -- plain and watched form ask in the same order, so they are run side by side
  simp only [idempotent_run, hname]
  generalize hid : (EventCatalog.schema kind).id body = id
  obtain ⟨looked, w₁, hcontains, hkeys₁, hfound⟩ := hledger.contains id inner.name w
  have hown₁ := owned_congr hkeys₁ inner.name
  rw [hcontains, Watched.contains_run hcontains]
  rcases looked with f | found
  · exact ⟨_, _, w₁, .unchecked f hown₁, rfl, rfl⟩
  obtain rfl : found = owned holds inner.name w id := hfound found rfl
  cases hfound : owned holds inner.name w id with
  | true => exact ⟨_, _, w₁, .skipped hfound hown₁, rfl, rfl⟩
  | false =>
    dsimp only
    have hown₂ := (hspares body w₁).trans hown₁
    rcases hinner : (inner.handle body).run w₁ with ⟨e | f | _, w₂⟩
    all_goals rw [hinner] at hown₂
    · -- no answer, and so nothing is recorded
      rw [Watched.handle_run_aborted hinner, hid]
      exact ⟨_, _, w₂, .aborted e hfound hown₂, rfl, rfl⟩
    · rw [Watched.handle_run hinner, hid]
      exact ⟨_, _, w₂, .failed f hfound hown₂, rfl, rfl⟩
    · rw [Watched.handle_run hinner, hid]
      dsimp only
      obtain ⟨recorded, w₃, hrecord, hlost, hkept⟩ := hledger.record id inner.name w₂
      rw [hrecord, Watched.record_run hrecord]
      rcases recorded with f | a
      · have hown₃ := (owned_congr (hlost f rfl) inner.name).trans hown₂
        exact ⟨_, _, w₃, .lost f hfound hown₃, rfl, rfl⟩
      · have hown₃ := owned_update (hkept a rfl)
        rw [hown₂] at hown₃
        exact ⟨_, _, w₃, .recorded a hfound hown₃, rfl, rfl⟩

/-- The passage of a delivery, in terms of what is noted about it. -/
theorem visit_passage (hledger : ledger.KeepsKeys holds) (hspares : inner.SparesOwn holds)
    (body : EventBody kind) (w : W) :
    Passage inner.name ((EventCatalog.schema kind).id body) (owned holds inner.name w)
      (owned holds inner.name (((inner.idempotent ledger).handle body).run w).2)
      (visit ledger inner body w).notes (visit ledger inner body w).answer := by
  obtain ⟨notes, answer, w', hpassage, hrun, hwatched⟩ := exists_passage hledger hspares body w
  simp only [visit, hrun, hwatched]
  exact hpassage

/-! ## §4 Runs of deliveries -/

/-- Deliveries to the idempotent form of a handler, one after the other, from a ledger without rows
of its name.  Between them anything may happen that leaves these rows alone. -/
inductive Visits (ledger : LedgerAccess W) (holds : W → LedgerKey → Bool) (inner : Handler W kind) :
    List Visit → W → Prop where
  | start {w} (fresh : ∀ id, holds w (id, inner.name) = false) : Visits ledger holds inner [] w
  | delivery {past w} (before : Visits ledger holds inner past w) (body : EventBody kind) :
      Visits ledger holds inner (past ++ [visit ledger inner body w])
        (((inner.idempotent ledger).handle body).run w).2
  | elsewhere {past w w'} (before : Visits ledger holds inner past w)
      (spares : ∀ id, holds w' (id, inner.name) = holds w (id, inner.name)) :
      Visits ledger holds inner past w'

/-- All notes about deliveries. -/
def journal (past : List Visit) : List Entry :=
  past.flatMap Visit.notes

theorem journal_concat (past : List Visit) (v : Visit) :
    journal (past ++ [v]) = journal past ++ v.notes := by
  simp only [journal, List.flatMap_append, List.flatMap_singleton]

/-- The balance of a run.  The handler succeeded on an event as often as the ledger failed to record
it, and once more if the key is held; and the keys that are held are those for which a delivery
succeeded. -/
structure Balanced (name : String) (past : List Visit) (own : Uuid → Bool) : Prop where
  balance : ∀ id, (journal past).countP (Entry.succeeds id) =
    (journal past).countP (Entry.loses (id, name)) + (own id).toNat
  held : ∀ id, own id = true ↔ ∃ v ∈ past, v.id = id ∧ v.answer = .ok (.ok ())

/-- What one delivery adds to both sides of the balance. -/
theorem Passage.balance {name : String} {id : Uuid} {before after : Uuid → Bool}
    {notes : List Entry} {answer : Except Abort (Except Failure Unit)}
    (h : Passage name id before after notes answer) (j : Uuid) :
    notes.countP (Entry.succeeds j) + (before j).toNat =
      notes.countP (Entry.loses (j, name)) + (after j).toNat := by
  cases h with
  | unchecked f same => rw [same]; rfl
  | skipped known same => rw [same]; rfl
  | failed f new same => rw [same]; rfl
  | aborted e new same => rw [same]; rfl
  | lost f new same =>
    -- one success and one lost record, and the keys stay as they are
    rw [same]
    by_cases hj : id = j <;> simp [Entry.succeeds, Entry.loses, hj]
  | recorded a new kept =>
    -- one success, and the key is held that was not held before
    rw [kept]
    by_cases hj : id = j
    · subst hj
      simp [Entry.succeeds, Entry.loses, new]
    · rw [Function.update_of_ne (Ne.symm hj)]
      simp [Entry.succeeds, Entry.loses, hj]

/-- A key is held after a delivery if it was held before or if this delivery succeeded. -/
theorem Passage.held {name : String} {id : Uuid} {before after : Uuid → Bool}
    {notes : List Entry} {answer : Except Abort (Except Failure Unit)}
    (h : Passage name id before after notes answer) (j : Uuid) :
    after j = true ↔ before j = true ∨ (id = j ∧ answer = .ok (.ok ())) := by
  cases h with
  | unchecked f same => simp [same]
  | skipped known same =>
    rw [same]
    refine ⟨Or.inl, ?_⟩
    rintro (hj | ⟨rfl, -⟩)
    · exact hj
    · exact known
  | failed f new same => simp [same]
  | aborted e new same => simp [same]
  | lost f new same => simp [same]
  | recorded a new kept =>
    rw [kept, Function.update_apply]
    by_cases hj : id = j
    · simp [hj]
    · simp [hj, Ne.symm hj]

/-- A delivery adds its own balance to that of the deliveries before it. -/
theorem Balanced.visit {name : String} {past : List Visit} {before after : Uuid → Bool} {v : Visit}
    (hpast : Balanced name past before) (h : Passage name v.id before after v.notes v.answer) :
    Balanced name (past ++ [v]) after where
  balance := by
    intro j
    have hbefore := hpast.balance j
    have hvisit := h.balance j
    rw [journal_concat, List.countP_append, List.countP_append]
    omega
  held := by
    intro j
    rw [h.held, hpast.held]
    simp only [List.mem_append, List.mem_singleton, or_and_right, exists_or, exists_eq_left]

/-- The balance holds after any run of deliveries, by what each of them adds. -/
theorem Visits.balanced (hledger : ledger.KeepsKeys holds) (hspares : inner.SparesOwn holds)
    {past : List Visit} {w : W} (h : Visits ledger holds inner past w) :
    Balanced inner.name past (owned holds inner.name w) := by
  induction h with
  | start fresh =>
    refine ⟨fun id => ?_, fun id => ?_⟩
    · rw [owned, fresh]
      rfl
    · rw [owned, fresh]
      simp
  | delivery _ body ih => exact ih.visit (visit_passage hledger hspares body _)
  | elsewhere _ spares ih =>
    -- nothing was delivered meanwhile, and the keys of this name are as they were
    have hsame : owned holds inner.name _ = owned holds inner.name _ := funext spares
    rw [hsame]
    exact ih

/-- What the notes of one delivery say. -/
structure Told (name : String) (v : Visit) : Prop where
  invoked : ∀ i, .invoked i ∈ v.notes ↔ i = v.id ∧ .looked (v.id, name) (.ok false) ∈ v.notes
  answered : v.answer = .ok (.ok ()) ↔ .looked (v.id, name) (.ok true) ∈ v.notes ∨
    (.returned v.id (.ok ()) ∈ v.notes ∧ ∃ a, .recorded (v.id, name) (.ok a) ∈ v.notes)

/-- Each of the six ways says of itself what its notes say. -/
theorem Passage.told {name : String} {id : Uuid} {before after : Uuid → Bool}
    {notes : List Entry} {answer : Except Abort (Except Failure Unit)}
    (h : Passage name id before after notes answer) : Told name ⟨id, notes, answer⟩ := by
  cases h <;> constructor <;> simp

/-- What a delivery finds is what was held when it began. -/
theorem Passage.found {name : String} {id : Uuid} {before after : Uuid → Bool}
    {notes : List Entry} {answer : Except Abort (Except Failure Unit)}
    (h : Passage name id before after notes answer) {b : Bool}
    (hb : .looked (id, name) (.ok b) ∈ notes) : b = before id := by
  cases h with
  | unchecked => simp at hb
  | skipped known => simpa [known] using hb
  | failed _ new => simpa [new] using hb
  | aborted _ new => simpa [new] using hb
  | lost _ new => simpa [new] using hb
  | recorded _ new => simpa [new] using hb

/-- What holds of a run of deliveries.  The look-up of a delivery finds what the earlier deliveries
of the same event left, whatever was delivered besides. -/
structure OncePerLoss (name : String) (past : List Visit) (own : Uuid → Bool) : Prop where
  balanced : Balanced name past own
  told : ∀ v ∈ past, Told name v
  found : ∀ (n : Nat) (v : Visit), past[n]? = some v →
    ∀ b, .looked (v.id, name) (.ok b) ∈ v.notes →
      (b = true ↔ ∃ v' ∈ past.take n, v'.id = v.id ∧ v'.answer = .ok (.ok ()))

/-- On a ledger that is a set of keys, whichever calls fail. -/
theorem once_per_loss (hledger : ledger.KeepsKeys holds) (hspares : inner.SparesOwn holds)
    {past : List Visit} {w : W} (h : Visits ledger holds inner past w) :
    OncePerLoss inner.name past (owned holds inner.name w) := by
  refine ⟨h.balanced hledger hspares, ?_, ?_⟩
  · induction h with
    | start => simp
    | delivery _ body ih =>
      intro v hv
      rcases List.mem_append.mp hv with hv | hv
      · exact ih v hv
      · obtain rfl := List.mem_singleton.mp hv
        exact (visit_passage hledger hspares body _).told
    | elsewhere _ _ ih => exact ih
  · induction h with
    | start => simp
    | @delivery past w before body ih =>
      intro n v hv b hb
      rcases Nat.lt_or_ge n past.length with hn | hn
      · rw [List.getElem?_append_left hn] at hv
        rw [List.take_append_of_le_length (Nat.le_of_lt hn)]
        exact ih n v hv b hb
      · -- the last delivery finds what all before it left
        rw [List.getElem?_append_right hn, List.getElem?_singleton] at hv
        split at hv
        · next hlast =>
          cases hv
          have hn' : n = past.length := by omega
          rw [hn', List.take_left, (visit_passage hledger hspares body w).found hb]
          exact (before.balanced hledger hspares).held _
        · cases hv
    | elsewhere _ _ ih => exact ih

open Simulation in
/-- The ledger of the world to run in is a set of keys, whichever faults are armed. -/
theorem keepsKeys_ledger : (World.ledger (κ := κ)).KeepsKeys fun w => w.store.ledger.contains where
  contains := by
    intro id consumer w
    dsimp only [World.ledger]
    rw [Action.run_bind_of_ok (Action.run_ask _ w)]
    cases w.containsFault with
    | some f => exact ⟨_, _, rfl, rfl, nofun⟩
    | none => exact ⟨_, _, rfl, rfl, fun found hfound => by cases hfound; rfl⟩
  record := by
    intro id consumer w
    dsimp only [World.ledger]
    rw [Action.run_bind_of_ok (Action.run_ask _ w)]
    cases w.ledgerFault with
    | some f => exact ⟨_, _, rfl, fun _ _ => rfl, nofun⟩
    | none =>
      obtain ⟨answer, w', hrun, hlost, hkept⟩ :=
        (Store.keepsKeys_ledgerAccess World.storeCell (·.clock)).record id consumer w
      dsimp only
      rw [World.storeLedger, Action.run_bind_of_ok hrun]
      rcases answer with f | a
      · exact ⟨_, w', rfl, fun _ _ => hlost f rfl, nofun⟩
      · exact ⟨_, _, rfl, nofun, fun _ _ => hkept a rfl⟩

open Simulation

/-- A handler that counts how often it is called. -/
private def bell : Handler (World Shop.Kind) Shop.Kind.itemCreated where
  name := "bell"
  handle _ := Action.step fun w => (.ok (), { w with time := w.time + 1 })

/-- The ledger cannot record the next event. -/
private def tower : World Shop.Kind where
  clock := Shop.opening
  ledgerFault := some (.plain .databaseError "connection reset")

private def ring (w : World Shop.Kind) : Except Abort (Except Failure Unit) × World Shop.Kind :=
  ((bell.idempotent World.ledger).handle (Shop.created 1).body).run w

/-- The bell rings twice for one event, since the ledger does not record it the first time. -/
theorem called_again_after_lost_record : ∃ past w, w = (ring (ring (ring tower).2).2).2 ∧
    past.map Visit.answer = [.ok (.error (.plain .databaseError "connection reset")),
      .ok (.ok ()), .ok (.ok ())] ∧ w.time = 2 ∧
    OncePerLoss "bell" past fun id => w.store.ledger.contains (id, "bell") := by
  have hstart : Visits World.ledger (fun w => w.store.ledger.contains) bell [] tower :=
    .start fun _ => rfl
  have hvisits := ((hstart.delivery (Shop.created 1).body).delivery (Shop.created 1).body).delivery
    (Shop.created 1).body
  exact ⟨_, _, rfl, rfl, rfl, once_per_loss keepsKeys_ledger (fun _ _ => rfl) hvisits⟩

end Handler

end EventOutbox
