import EventOutbox.Proofs.Settings.Groups
import EventOutbox.Proofs.Stream.Declaring

/-!
# The groups that a list declares

The consumer groups of a publisher are written as one text with commas between them.  The names that
are read from it are exactly those that it spells, whatever white space and blank entries stand
around them, and they are what is declared on every stream: in their order, from the first one on
after each refusal, and all of them before the first entry.

## Main statements

- `Session.history_afterAll`
- `listed_groups_declared`
-/

namespace EventOutbox.Stream

variable {κ : Type} [EventCatalog κ] {p : Publisher} {e : Event κ}

/-! ## §1 The history of a stream -/

/-- The exchanges about a stream since the start of a session, and whether it is known by now. -/
inductive History (stream : String) (groups : List String) : Bool → List Exchange → Prop where
  /-- Nothing was sent. -/
  | start : History stream groups false []
  /-- The groups were tried in their order, up to one that was refused. -/
  | refused {xs ys f} (before : History stream groups false xs)
      (refused : Declaration stream groups ys (.error f)) : History stream groups false (xs ++ ys)
  /-- All groups were accepted in their order. -/
  | declared {xs ys} (before : History stream groups false xs)
      (accepted : List.Forall₂ (Declares stream) groups ys) : History stream groups true (xs ++ ys)
  /-- An entry was appended to the known stream. -/
  | appended {xs fields} (reply : Reply) (before : History stream groups true xs) :
      History stream groups true (xs ++ [(.append stream fields, reply)])

/-- Publishing an event continues the history of its stream. -/
theorem Outcome.history {declared declared' : List String} {xs ys : List Exchange}
    {answer : Except Failure Unit} (h : Outcome p e declared xs declared' answer)
    (before : History (p.streamName e.eventType) p.consumerGroups
      (decide (p.streamName e.eventType ∈ declared)) ys) :
    History (p.streamName e.eventType) p.consumerGroups
      (decide (p.streamName e.eventType ∈ declared')) (ys ++ xs) := by
  -- what is known of the stream before and after decides which step of the history it is
  cases h with
  | unwritten =>
    rw [List.append_nil]
    exact before
  | appended reply _ hknown =>
    rw [decide_eq_true hknown] at before ⊢
    exact before.appended reply
  | undeclared _ hnew hrefused =>
    rw [decide_eq_false hnew] at before ⊢
    exact before.refused hrefused
  | declared reply _ hnew haccepted =>
    rw [decide_eq_false hnew] at before
    rw [decide_eq_true List.mem_cons_self, ← List.append_assoc]
    exact (before.declared haccepted.forall₂).appended reply

namespace Session

variable {S : Type}

/-- One event continues the history of every stream. -/
theorem history_after {w : Session S} {stream : String} (serve : Command → S → Reply × S)
    (e : Event κ)
    (before : History stream p.consumerGroups (decide (stream ∈ w.declared))
      (about stream w.journal)) :
    History stream p.consumerGroups (decide (stream ∈ (after p serve w e).declared))
      (about stream (after p serve w e).journal) := by
  obtain ⟨answer, houtcome, -, hjournal⟩ := exchanged_outcome p serve w e
  rw [hjournal, about_append, about_of_outcome houtcome]
  by_cases hstream : p.streamName e.eventType = stream
  · subst hstream
    rw [if_pos rfl]
    exact houtcome.history before
  · -- the event is about another stream
    have hsame : stream ∈ (after p serve w e).declared ↔ stream ∈ w.declared :=
      houtcome.other_stream (Ne.symm hstream)
    rw [if_neg hstream, List.append_nil, decide_eq_decide.mpr hsame]
    exact before

/-- The exchanges about a stream are one of its histories, whatever the server replies. -/
theorem history_afterAll (p : Publisher) (serve : Command → S → Reply × S) (server : S)
    (es : List (Event κ)) (stream : String) :
    History stream p.consumerGroups
      (decide (stream ∈ (afterAll p serve ⟨server, [], []⟩ es).declared))
      (about stream (afterAll p serve ⟨server, [], []⟩ es).journal) := by
  -- on the events from the last one, which continues the history of those before it
  induction es using List.reverseRecOn with
  | nil => exact .start
  | append_singleton es e ih =>
    rw [afterAll_append]
    exact history_after serve e ih

end Session

/-! ## §2 From the list to the streams -/

/-- How the list of groups in the settings is used. -/
structure UsesListedGroups (κ : Type) [EventCatalog κ] (s : Settings.Stream) : Prop where
  /-- Every name is one that a list can hold: it is not empty, has no comma, and neither begins nor
  ends with white space. -/
  names : ∀ name ∈ s.groupNames, Settings.Stream.IsGroupName name
  /-- The list is cut at its commas in one way, and the names are its entries in their order,
  without the blank ones and without the white space around them. -/
  entries : ∃ entries, (∀ other, Settings.Stream.IsCut s.consumerGroups other ↔ other = entries) ∧
    Settings.Stream.Entries entries s.groupNames
  /-- However names are spelled, they are read back. -/
  spelled : ∀ entries names, Settings.Stream.Entries entries names →
    ({ s with consumerGroups := ",".intercalate entries } : Settings.Stream).groupNames = names
  /-- The names that were read are read again from the list of them. -/
  again : ({ s with consumerGroups := ",".intercalate s.groupNames } : Settings.Stream).groupNames =
    s.groupNames
  /-- On every stream of every server the groups with these names are declared in this order. -/
  declared : ∀ {S : Type} (serve : Command → S → Reply × S) (server : S)
    (es : List (Event κ)) stream,
    let w := Session.afterAll (.ofSettings s) serve ⟨server, [], []⟩ es
    History stream s.groupNames (decide (stream ∈ w.declared)) (Session.about stream w.journal)

/-- The groups that are declared are those that the list spells, whatever the list is. -/
theorem listed_groups_declared (κ : Type) [EventCatalog κ] (s : Settings.Stream) :
    UsesListedGroups κ s := by
  -- the only way in which the list can be cut
  obtain ⟨entries, hcut⟩ : ∃ entries, ∀ other,
      Settings.Stream.IsCut s.consumerGroups other ↔ other = entries :=
    ⟨_, fun _ => Settings.Stream.isCut_iff⟩
  have hentries : Settings.Stream.Entries entries s.groupNames :=
    Settings.Stream.entries_of_isCut ((hcut entries).mpr rfl)
  constructor
  case names => exact hentries.isGroupName
  case entries => exact ⟨entries, hcut, hentries⟩
  case spelled => exact fun _ _ h => Settings.Stream.groupsOf_intercalate h
  case again =>
    apply Settings.Stream.groupsOf_intercalate
    exact Settings.Stream.entries_self hentries.isGroupName
  case declared =>
    intro S serve server es stream w
    exact Session.history_afterAll (.ofSettings s) serve server es stream

end EventOutbox.Stream
