import EventOutbox.Proofs.ActionLogic
import EventOutbox.Stream.Publisher
import Mathlib.Data.List.Forall2

/-!
# Sessions with a stream server

A session is a publisher's view of a server: the server, which may answer in any way, the streams
that the publisher remembers as declared, and a journal of every command with its reply.  One
relation lists all ways in which publishing an event ends, with what it exchanged.  A session can be
replayed: given the same replies, publishing sends the same commands.

## Main statements

- `Session.publish_outcome`
- `Outcome.replay`
-/

namespace EventOutbox.Stream

/-! ## §1 Sessions -/

/-- A command and its reply. -/
abbrev Exchange : Type := Command × Reply

/-- The stream that a command is about. -/
def Command.stream? : Command → Option String
  | .createGroup stream _ | .append stream _ => some stream
  | .logIn _ _ | .choose _ => none

/-- A reply that takes a group as declared: no error, or the error that the group exists. -/
def Reply.Accepted (r : Reply) : Prop :=
  ∀ line, r = .error line → (ErrorLine.ofText line).code = "BUSYGROUP"

/-- A server, the streams that are declared on it, and all exchanges so far. -/
structure Session (S : Type) where
  server : S
  declared : List String := []
  journal : List Exchange := []

namespace Session

variable {S : Type}

/-- The connection to a server that answers by a function. -/
def channel (serve : Command → S → Reply × S) : Channel (Session S) where
  send c := .step fun w =>
    ((serve c w.server).1,
      { w with
        server := (serve c w.server).2
        journal := w.journal ++ [(c, (serve c w.server).1)] })

/-- The declared streams as a part of a session. -/
def declaredCell : Cell (Session S) (List String) where
  get w := w.declared
  set x w := { w with declared := x }
  get_set _ _ := rfl
  set_get _ := rfl
  set_set _ _ _ := rfl

/-- The server that answers from a list of replies. -/
def scripted (_ : Command) : List Reply → Reply × List Reply
  | [] => (.nil, [])
  | r :: rs => (r, rs)

variable {κ : Type} [EventCatalog κ]

/-- Publish an event in a session. -/
def publish (p : Publisher) (serve : Command → S → Reply × S) (e : Event κ) :
    Action (Session S) (Except Failure Unit) :=
  p.publish (channel serve) declaredCell e

/-- The session after one event was published. -/
def after (p : Publisher) (serve : Command → S → Reply × S) (w : Session S) (e : Event κ) :
    Session S :=
  ((publish p serve e).run w).2

/-- The session after several events were published. -/
def afterAll (p : Publisher) (serve : Command → S → Reply × S) (w : Session S)
    (es : List (Event κ)) : Session S :=
  es.foldl (after p serve) w

/-- What is exchanged to publish an event. -/
def exchanged (p : Publisher) (serve : Command → S → Reply × S) (w : Session S) (e : Event κ) :
    List Exchange :=
  (after p serve w e).journal.drop w.journal.length

end Session

/-! ## §2 Declaring groups -/

/-- A group is declared on a stream, and the server accepts it. -/
structure Declares (stream group : String) (x : Exchange) : Prop where
  command : x.1 = .createGroup stream group
  accepted : x.2.Accepted

/-- A reply counts as that of an existing group when it is accepted. -/
theorem groupExists_eq_ok_iff {r : Reply} : Publisher.groupExists r = .ok () ↔ r.Accepted := by
  cases r with
  | error line => simp [Publisher.groupExists, Reply.Accepted]
  | _ => simp [Publisher.groupExists, Reply.Accepted]

/-- An accepted group is not refused. -/
theorem Declares.not_refused {stream group : String} {x : Exchange} (h : Declares stream group x)
    (problem : ReplyProblem) : Publisher.groupExists x.2 ≠ .error problem := by
  rw [groupExists_eq_ok_iff.mpr h.accepted]
  exact nofun

/-- How declaring groups on a stream ends: all are accepted, or the first that is not ends it. -/
inductive Declaration (stream : String) :
    List String → List Exchange → Except Failure Unit → Prop where
  | done : Declaration stream [] [] (.ok ())
  | refused {group groups reply problem} (refused : Publisher.groupExists reply = .error problem) :
      Declaration stream (group :: groups) [(.createGroup stream group, reply)]
        (.error (Publisher.declareFailure stream group problem))
  | accepted {group groups reply xs answer} (accepted : reply.Accepted)
      (rest : Declaration stream groups xs answer) :
      Declaration stream (group :: groups) ((.createGroup stream group, reply) :: xs) answer

/-- A declaration that succeeds declares all groups in their order. -/
theorem Declaration.forall₂ {stream : String} {groups : List String} {xs : List Exchange}
    (h : Declaration stream groups xs (.ok ())) : List.Forall₂ (Declares stream) groups xs := by
  generalize hanswer : (Except.ok () : Except Failure Unit) = answer at h
  induction h with
  | done => exact .nil
  | refused => cases hanswer
  | accepted haccepted _ ih => exact .cons ⟨rfl, haccepted⟩ (ih hanswer)

/-- A declaration that fails declares the groups before the refused one, and no other. -/
theorem Declaration.split {stream : String} {groups : List String} {xs : List Exchange}
    {f : Failure} (h : Declaration stream groups xs (.error f)) :
    ∃ before group after ys reply problem, groups = before ++ group :: after ∧
      List.Forall₂ (Declares stream) before ys ∧ xs = ys ++ [(.createGroup stream group, reply)] ∧
      Publisher.groupExists reply = .error problem ∧
      f = Publisher.declareFailure stream group problem := by
  generalize hanswer : (Except.error f : Except Failure Unit) = answer at h
  induction h with
  | done => cases hanswer
  | refused hrefused =>
    cases hanswer
    exact ⟨[], _, _, [], _, _, rfl, .nil, rfl, hrefused, rfl⟩
  | @accepted group₀ _ reply₀ _ _ haccepted _ ih =>
    obtain ⟨before, group, after, ys, reply, problem, rfl, hys, rfl, hrefused, hf⟩ := ih hanswer
    exact ⟨group₀ :: before, group, after, (.createGroup stream group₀, reply₀) :: ys, reply,
      problem, rfl, .cons ⟨rfl, haccepted⟩ hys, rfl, hrefused, hf⟩

section Run

variable {S : Type} (serve : Command → S → Reply × S)

/-- A command is noted with its reply. -/
theorem Session.send_run (c : Command) (w : Session S) :
    ((channel serve).send c).run w = (.ok (serve c w.server).1,
      { w with
        server := (serve c w.server).2
        journal := w.journal ++ [(c, (serve c w.server).1)] }) := rfl

/-- Declaring groups ends in one of the listed ways, and notes what it sent. -/
theorem Session.declareGroups_run (stream : String) (groups : List String) (w : Session S) :
    ∃ xs answer server, Declaration stream groups xs answer ∧
      (Publisher.declareGroups (channel serve) stream groups).run w =
        (.ok answer, { w with server, journal := w.journal ++ xs }) := by
  -- on the groups: the session after the first reply is the one in which the others are declared
  induction groups generalizing w with
  | nil => exact ⟨[], _, w.server, .done, by rw [List.append_nil]; rfl⟩
  | cons group groups ih =>
    rw [Publisher.declareGroups, Action.run_bind_of_ok (send_run serve _ w)]
    cases hreply : Publisher.groupExists (serve (.createGroup stream group) w.server).1 with
    | error problem => exact ⟨_, _, _, .refused hreply, rfl⟩
    | ok _ =>
      obtain ⟨xs, answer, server, hdeclaration, hrun⟩ := ih { w with
        server := (serve (.createGroup stream group) w.server).2
        journal := w.journal ++ [(.createGroup stream group,
          (serve (.createGroup stream group) w.server).1)] }
      refine ⟨_, answer, server, .accepted (groupExists_eq_ok_iff.mp hreply) hdeclaration, ?_⟩
      simp only [hrun, List.append_assoc, List.singleton_append]

end Run

/-- With the replies of a declaration, declaring the groups sends the same commands. -/
theorem Declaration.replay {stream : String} {groups : List String} {xs : List Exchange}
    {answer : Except Failure Unit} (h : Declaration stream groups xs answer)
    (rest : List Reply) (declared : List String) (journal : List Exchange) :
    (Publisher.declareGroups (Session.channel Session.scripted) stream groups).run
        ⟨xs.map Prod.snd ++ rest, declared, journal⟩ =
      (.ok answer, ⟨rest, declared, journal ++ xs⟩) := by
  induction h generalizing journal with
  | done =>
    rw [List.append_nil]
    rfl
  | refused hrefused =>
    rw [Publisher.declareGroups, Action.run_bind_of_ok (Session.send_run Session.scripted _ _)]
    simp only [List.map_cons, List.map_nil, List.cons_append, List.nil_append, Session.scripted,
      hrefused, Action.run_pure]
  | accepted haccepted _ ih =>
    rw [Publisher.declareGroups, Action.run_bind_of_ok (Session.send_run Session.scripted _ _)]
    simp only [List.map_cons, List.cons_append, Session.scripted,
      groupExists_eq_ok_iff.mpr haccepted, ih, List.append_assoc, List.nil_append]

/-! ## §3 Publishing -/

/-- What publishing answers when the server has replied to the append. -/
def appendAnswer (stream : String) (reply : Reply) : Except Failure Unit :=
  match reply.text with
  | .ok _ => .ok ()
  | .error problem =>
    .error (.plain .publishFailed s!"XADD to {stream} failed: {problem.message}")

section Outcome

variable {κ : Type} [EventCatalog κ] {p : Publisher} {e : Event κ}

/-- How publishing an event ends, from the streams that are declared before: what is exchanged, the
streams that are declared afterwards, and the answer. -/
inductive Outcome (p : Publisher) (e : Event κ) (declared : List String) :
    List Exchange → List String → Except Failure Unit → Prop where
  /-- The event has no JSON form. -/
  | unwritten {f} (unwritten : Publisher.entry e = .error f) :
      Outcome p e declared [] declared (.error f)
  /-- The stream was declared before. -/
  | appended {fields} (reply : Reply) (written : Publisher.entry e = .ok fields)
      (known : p.streamName e.eventType ∈ declared) :
      Outcome p e declared [(.append (p.streamName e.eventType) fields, reply)] declared
        (appendAnswer (p.streamName e.eventType) reply)
  /-- A group is refused. -/
  | undeclared {fields xs f} (written : Publisher.entry e = .ok fields)
      (new : p.streamName e.eventType ∉ declared)
      (refused : Declaration (p.streamName e.eventType) p.consumerGroups xs (.error f)) :
      Outcome p e declared xs declared (.error f)
  /-- The stream is declared now. -/
  | declared {fields xs} (reply : Reply) (written : Publisher.entry e = .ok fields)
      (new : p.streamName e.eventType ∉ declared)
      (accepted : Declaration (p.streamName e.eventType) p.consumerGroups xs (.ok ())) :
      Outcome p e declared (xs ++ [(.append (p.streamName e.eventType) fields, reply)])
        (p.streamName e.eventType :: declared) (appendAnswer (p.streamName e.eventType) reply)

namespace Session

variable {S : Type} {serve : Command → S → Reply × S} {w w' : Session S}

/-- On a known stream nothing is declared. -/
theorem ensureDeclared_known {stream : String} (h : stream ∈ w.declared) :
    (p.ensureDeclared (channel serve) declaredCell stream).run w = (.ok (.ok ()), w) := by
  have hcontains : (declaredCell.get w).contains stream = true := by
    simpa [declaredCell] using h
  rw [Publisher.ensureDeclared, Action.run_bind_of_ok (Action.run_ask _ w), if_pos hcontains]
  rfl

/-- A stream that is not known is declared, and remembered when all groups are accepted. -/
theorem ensureDeclared_new {stream : String} (h : stream ∉ w.declared)
    {answer : Except Failure Unit}
    (hrun : (Publisher.declareGroups (channel serve) stream p.consumerGroups).run w =
      (.ok answer, w')) :
    (p.ensureDeclared (channel serve) declaredCell stream).run w = (.ok answer,
      match answer with
      | .ok () => { w' with declared := stream :: w'.declared }
      | .error _ => w') := by
  have hcontains : ¬ (declaredCell.get w).contains stream = true := by
    simpa [declaredCell] using h
  rw [Publisher.ensureDeclared, Action.run_bind_of_ok (Action.run_ask _ w), if_neg hcontains,
    Action.run_bind_of_ok hrun]
  cases answer <;> rfl

/-- An event that cannot be written sends nothing. -/
theorem publish_unwritten {f : Failure} (h : Publisher.entry e = .error f) :
    (publish p serve e).run w = (.ok (.error f), w) := by
  rw [publish, Publisher.publish]
  simp only [h, Action.run_pure]

/-- The stream is not declared, and the event is not appended. -/
theorem publish_refused {fields : List (String × String)} (h : Publisher.entry e = .ok fields)
    {f : Failure} (hrun : (p.ensureDeclared (channel serve) declaredCell
      (p.streamName e.eventType)).run w = (.ok (.error f), w')) :
    (publish p serve e).run w = (.ok (.error f), w') := by
  rw [publish, Publisher.publish]
  simp only [h]
  rw [Action.run_bind_of_ok hrun, Action.run_pure]

/-- The stream is declared, and the event is appended. -/
theorem publish_append {fields : List (String × String)} (h : Publisher.entry e = .ok fields)
    (hrun : (p.ensureDeclared (channel serve) declaredCell
      (p.streamName e.eventType)).run w = (.ok (.ok ()), w')) :
    (publish p serve e).run w =
      (.ok (appendAnswer (p.streamName e.eventType)
        (serve (.append (p.streamName e.eventType) fields) w'.server).1),
      { w' with
        server := (serve (.append (p.streamName e.eventType) fields) w'.server).2
        journal := w'.journal ++ [(.append (p.streamName e.eventType) fields,
          (serve (.append (p.streamName e.eventType) fields) w'.server).1)] }) := by
  rw [publish, Publisher.publish]
  simp only [h]
  rw [Action.run_bind_of_ok hrun, Action.run_bind_of_ok (send_run serve _ w'), appendAnswer]
  cases (serve (.append (p.streamName e.eventType) fields) w'.server).1.text <;> rfl

/-- Publishing an event ends in one of the listed ways, and always with an answer. -/
theorem publish_outcome (p : Publisher) (serve : Command → S → Reply × S) (e : Event κ)
    (w : Session S) : ∃ xs answer, Outcome p e w.declared xs (after p serve w e).declared answer ∧
      (publish p serve e).run w = (.ok answer, after p serve w e) ∧
      (after p serve w e).journal = w.journal ++ xs := by
  have hpublish : ∀ {xs answer w'}, (publish p serve e).run w = (.ok answer, w') →
      Outcome p e w.declared xs w'.declared answer → w'.journal = w.journal ++ xs →
      ∃ xs answer, Outcome p e w.declared xs (after p serve w e).declared answer ∧
        (publish p serve e).run w = (.ok answer, after p serve w e) ∧
        (after p serve w e).journal = w.journal ++ xs := by
    intro xs answer w' hrun houtcome hjournal
    rw [after, hrun]
    exact ⟨xs, answer, houtcome, rfl, hjournal⟩
  -- the event cannot be written, or its stream is known, or it is declared first
  cases hentry : Publisher.entry e with
  | error f =>
    exact hpublish (publish_unwritten hentry) (.unwritten hentry) (List.append_nil _).symm
  | ok fields =>
    by_cases hknown : p.streamName e.eventType ∈ w.declared
    · exact hpublish (publish_append hentry (ensureDeclared_known hknown))
        (.appended _ hentry hknown) rfl
    · obtain ⟨xs, answer, server, hdeclaration, hrun⟩ :=
        declareGroups_run serve (p.streamName e.eventType) p.consumerGroups w
      have hensure := ensureDeclared_new hknown hrun
      rcases answer with f | _
      · exact hpublish (publish_refused hentry hensure) (.undeclared hentry hknown hdeclaration) rfl
      · refine hpublish (publish_append hentry hensure)
          (.declared _ hentry hknown hdeclaration) ?_
        simp only [List.append_assoc]

end Session

/-- With the replies of an outcome, and the stream declared or not as before, publishing ends in the
same way. -/
theorem Outcome.replay {declared declared' : List String} {xs : List Exchange}
    {answer : Except Failure Unit} (h : Outcome p e declared xs declared' answer)
    {known : List String}
    (hknown : p.streamName e.eventType ∈ known ↔ p.streamName e.eventType ∈ declared)
    (rest : List Reply) (journal : List Exchange) :
    ∃ known', Session.after p Session.scripted ⟨xs.map Prod.snd ++ rest, known, journal⟩ e =
        ⟨rest, known', journal ++ xs⟩ ∧
      (p.streamName e.eventType ∈ known' ↔ p.streamName e.eventType ∈ declared') := by
  cases h with
  -- the four ways are gone through again, each with the replies that it had
  | unwritten hentry =>
    refine ⟨known, ?_, hknown⟩
    rw [Session.after, Session.publish_unwritten hentry, List.append_nil]
    rfl
  | appended reply hentry hin =>
    refine ⟨known, ?_, hknown⟩
    rw [Session.after, Session.publish_append hentry
      (Session.ensureDeclared_known (hknown.mpr hin))]
    rfl
  | undeclared hentry hnew hrefused =>
    refine ⟨known, ?_, hknown⟩
    have hensure := Session.ensureDeclared_new (hknown.not.mpr hnew)
      (hrefused.replay rest known journal)
    rw [Session.after, Session.publish_refused hentry hensure]
  | @declared fields ys reply hentry hnew haccepted =>
    have hensure := Session.ensureDeclared_new (hknown.not.mpr hnew)
      (haccepted.replay (reply :: rest) known journal)
    refine ⟨p.streamName e.eventType :: known, ?_, by simp⟩
    rw [List.map_append, List.append_assoc]
    show Session.after p Session.scripted ⟨ys.map Prod.snd ++ (reply :: rest), known, journal⟩ e = _
    rw [Session.after, Session.publish_append hentry hensure]
    simp only [Session.scripted, List.append_assoc]

end Outcome

end EventOutbox.Stream
