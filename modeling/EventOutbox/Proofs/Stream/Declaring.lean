import EventOutbox.Proofs.Aligned
import EventOutbox.Proofs.Stream.Session
import EventOutbox.Shop
import Mathlib.Data.List.Induction

/-!
# Streams are declared before use, and once

Whatever the server replies, an entry is appended to a stream only after every consumer group was
declared on it, and a stream on which all groups were declared is not declared again.  A declaration
that is refused leaves no trace, so that the next event starts with the first group.  Streams do not
disturb each other: what is sent for one of them can be replayed from its own events and replies.

## Main statement

- `Session.streams_declared_once`
-/

namespace EventOutbox.Stream

variable {κ : Type} [EventCatalog κ] {p : Publisher} {e : Event κ}

/-- An element of an appended list stands in its first or in its second part. -/
theorem append_eq_append_cons {α : Type} {xs ys before rest : List α} {y : α}
    (h : xs ++ ys = before ++ y :: rest) :
    (∃ zs, before = xs ++ zs ∧ ys = zs ++ y :: rest) ∨ ∃ zs, xs = before ++ y :: zs := by
  rcases List.append_eq_append_iff.mp h with hnew | ⟨zs, hxs, hzs⟩
  · exact .inl hnew
  · cases zs with
    | nil => exact .inl ⟨[], by simpa using hxs.symm, hzs.symm⟩
    | cons z zs =>
      cases hzs
      exact .inr ⟨zs, hxs⟩

/-! ## §1 What one event exchanges -/

/-- The commands of a declaration are about its stream and its groups. -/
theorem Declaration.commands {stream : String} {groups : List String} {xs : List Exchange}
    {answer : Except Failure Unit} (h : Declaration stream groups xs answer) {x : Exchange}
    (hx : x ∈ xs) : ∃ group ∈ groups, x.1 = .createGroup stream group := by
  induction h with
  | done => cases hx
  | refused =>
    rw [List.mem_singleton] at hx
    subst hx
    exact ⟨_, List.mem_cons_self, rfl⟩
  | accepted _ _ ih =>
    rcases List.mem_cons.mp hx with rfl | hx
    · exact ⟨_, List.mem_cons_self, rfl⟩
    · obtain ⟨group, hgroup, hcommand⟩ := ih hx
      exact ⟨group, List.mem_cons_of_mem _ hgroup, hcommand⟩

/-- A declaration begins with the first group. -/
theorem Declaration.head {stream group : String} {groups : List String} {xs : List Exchange}
    {answer : Except Failure Unit} (h : Declaration stream (group :: groups) xs answer) :
    (xs.map Prod.fst).head? = some (.createGroup stream group) := by
  cases h <;> rfl

section Outcome

variable {declared declared' : List String} {xs : List Exchange} {answer : Except Failure Unit}

/-- All commands are about the stream of the event. -/
theorem Outcome.stream (h : Outcome p e declared xs declared' answer) {x : Exchange}
    (hx : x ∈ xs) : x.1.stream? = some (p.streamName e.eventType) := by
  cases h with
  | unwritten => cases hx
  | appended =>
    rw [List.mem_singleton] at hx
    subst hx
    rfl
  | undeclared _ _ hrefused =>
    obtain ⟨group, -, hcommand⟩ := hrefused.commands hx
    rw [hcommand]
    rfl
  | declared _ _ _ haccepted =>
    rcases List.mem_append.mp hx with hx | hx
    · obtain ⟨group, -, hcommand⟩ := haccepted.commands hx
      rw [hcommand]
      rfl
    · rw [List.mem_singleton] at hx
      subst hx
      rfl

/-- A known stream stays known. -/
theorem Outcome.subset (h : Outcome p e declared xs declared' answer) : declared ⊆ declared' := by
  cases h with
  | declared => exact List.subset_cons_self _ _
  | _ => exact List.Subset.refl _

/-- An event makes no other stream known than its own. -/
theorem Outcome.other_stream (h : Outcome p e declared xs declared' answer) {stream : String}
    (hne : stream ≠ p.streamName e.eventType) : stream ∈ declared' ↔ stream ∈ declared := by
  cases h with
  | declared => simp [hne]
  | _ => exact Iff.rfl

/-- Groups are declared on a stream only when it is not known, and only configured ones. -/
theorem Outcome.createGroup (h : Outcome p e declared xs declared' answer) {x : Exchange}
    (hx : x ∈ xs) {stream group : String} (hcommand : x.1 = .createGroup stream group) :
    stream ∉ declared ∧ group ∈ p.consumerGroups := by
  have hstream := h.stream hx
  rw [hcommand] at hstream
  obtain rfl : stream = p.streamName e.eventType := Option.some.inj hstream
  have hdeclaring : ∀ {ys answer'}, Declaration (p.streamName e.eventType) p.consumerGroups ys
      answer' → x ∈ ys → group ∈ p.consumerGroups := by
    intro ys answer' hdeclaration hx
    obtain ⟨group', hgroup, hcommand'⟩ := hdeclaration.commands hx
    rw [hcommand] at hcommand'
    cases hcommand'
    exact hgroup
  -- of the commands of an event only those of a declaration create groups
  cases h with
  | unwritten => cases hx
  | appended =>
    rw [List.mem_singleton] at hx
    subst hx
    cases hcommand
  | undeclared _ hnew hrefused => exact ⟨hnew, hdeclaring hrefused hx⟩
  | declared _ _ hnew haccepted =>
    refine ⟨hnew, hdeclaring haccepted ?_⟩
    rcases List.mem_append.mp hx with hx | hx
    · exact hx
    · rw [List.mem_singleton] at hx
      subst hx
      cases hcommand

/-- An append comes last, behind the declaration of all groups or on a known stream. -/
theorem Outcome.append (h : Outcome p e declared xs declared' answer) {before rest : List Exchange}
    {stream : String} {fields : List (String × String)} {reply : Reply}
    (hxs : xs = before ++ (.append stream fields, reply) :: rest) :
    rest = [] ∧ answer = appendAnswer stream reply ∧
      (stream ∈ declared ∨ List.Forall₂ (Declares stream) p.consumerGroups before) := by
  have hx : (Command.append stream fields, reply) ∈ xs := by simp [hxs]
  have hnot : ∀ {ys answer'}, Declaration (p.streamName e.eventType) p.consumerGroups ys answer' →
      (Command.append stream fields, reply) ∉ ys := by
    intro ys answer' hdeclaration hx
    obtain ⟨group, -, hcommand⟩ := hdeclaration.commands hx
    cases hcommand
  cases h with
  | unwritten => cases hx
  | appended reply' _ hknown =>
    rw [List.singleton_eq_append_iff] at hxs
    rcases hxs with ⟨rfl, hxs⟩ | ⟨-, hxs⟩
    · cases hxs
      exact ⟨rfl, rfl, .inl hknown⟩
    · cases hxs
  | undeclared _ _ hrefused => exact absurd hx (hnot hrefused)
  | @declared _ ys reply' _ _ haccepted =>
    -- the append is none of the declarations, so it is the last exchange
    rw [List.append_eq_append_iff] at hxs
    rcases hxs with ⟨zs, rfl, hzs⟩ | ⟨zs, hys, hzs⟩
    · rw [List.singleton_eq_append_iff] at hzs
      rcases hzs with ⟨rfl, hzs⟩ | ⟨-, hzs⟩
      · cases hzs
        rw [List.append_nil]
        exact ⟨rfl, rfl, .inr haccepted.forall₂⟩
      · cases hzs
    · cases zs with
      | nil =>
        cases hzs
        rw [List.append_nil] at hys
        exact ⟨rfl, rfl, .inr (hys ▸ haccepted.forall₂)⟩
      | cons z zs =>
        cases hzs
        exact absurd (by simp [hys]) (hnot haccepted)

/-- An answer without a failure is that of an append whose reply is a text. -/
theorem Outcome.ok_iff (h : Outcome p e declared xs declared' answer) :
    answer = .ok () ↔ ∃ before fields reply text,
      xs = before ++ [(.append (p.streamName e.eventType) fields, reply)] ∧
        reply.text = .ok text := by
  have hanswer : ∀ {reply : Reply}, appendAnswer (p.streamName e.eventType) reply = .ok () ↔
      ∃ text, reply.text = .ok text := by
    intro reply
    rw [appendAnswer]
    cases reply.text <;> simp
  constructor
  · intro hok
    cases h with
    | unwritten => cases hok
    | appended reply =>
      obtain ⟨text, htext⟩ := hanswer.mp hok
      exact ⟨[], _, reply, text, rfl, htext⟩
    | undeclared => cases hok
    | declared reply =>
      obtain ⟨text, htext⟩ := hanswer.mp hok
      exact ⟨_, _, reply, text, rfl, htext⟩
  · rintro ⟨before, fields, reply, text, hxs, htext⟩
    rw [(h.append hxs).2.1]
    exact hanswer.mpr ⟨text, htext⟩

/-- A stream is known afterwards if it was before or if all groups were declared on it. -/
theorem Outcome.known (h : Outcome p e declared xs declared' answer) {stream : String}
    (hstream : stream ∈ declared') : stream ∈ declared ∨
      ∀ group ∈ p.consumerGroups, ∃ x ∈ xs, Declares stream group x := by
  cases h with
  | declared _ _ _ haccepted =>
    rcases List.mem_cons.mp hstream with rfl | hold
    · right
      intro group hgroup
      obtain ⟨x, hx, hdeclares⟩ := exists_right_of_forall₂ haccepted.forall₂ hgroup
      exact ⟨x, List.mem_append_left _ hx, hdeclares⟩
    · exact .inl hold
  | _ => exact .inl hstream

/-- On an unknown stream the first command declares the first group. -/
theorem Outcome.head (h : Outcome p e declared xs declared' answer)
    {fields : List (String × String)} {first : String} {groups : List String}
    (hnew : p.streamName e.eventType ∉ declared) (hentry : Publisher.entry e = .ok fields)
    (hgroups : p.consumerGroups = first :: groups) :
    (xs.map Prod.fst).head? = some (.createGroup (p.streamName e.eventType) first) := by
  cases h with
  | unwritten hunwritten =>
    rw [hentry] at hunwritten
    cases hunwritten
  | appended _ _ hknown => exact absurd hknown hnew
  | undeclared _ _ hrefused =>
    rw [hgroups] at hrefused
    exact hrefused.head
  | declared _ _ _ haccepted =>
    rw [hgroups] at haccepted
    rw [List.map_append, List.head?_append, haccepted.head]
    rfl

/-- A refused group ends the publish: the groups before it and itself were sent, and no entry. -/
theorem Outcome.refused (h : Outcome p e declared xs declared' answer) {i : Nat}
    {stream group : String} {reply : Reply} {problem : ReplyProblem}
    (hx : xs[i]? = some (.createGroup stream group, reply))
    (hrefused : Publisher.groupExists reply = .error problem) :
    stream = p.streamName e.eventType ∧ stream ∉ declared ∧ p.consumerGroups[i]? = some group ∧
      xs.map Prod.fst = (p.consumerGroups.take (i + 1)).map (.createGroup stream) ∧
      declared' = declared ∧
      answer = .error (Publisher.declareFailure stream group problem) := by
  have hmem := List.mem_of_getElem? hx
  have hnot : ∀ {groups ys}, List.Forall₂ (Declares (p.streamName e.eventType)) groups ys →
      (Command.createGroup stream group, reply) ∉ ys := by
    intro groups ys hall hy
    obtain ⟨group', -, hdeclares⟩ := exists_left_of_forall₂ hall hy
    exact hdeclares.not_refused problem hrefused
  have hstream := h.stream hmem
  obtain rfl : stream = p.streamName e.eventType := Option.some.inj hstream
  refine ⟨rfl, (h.createGroup hmem rfl).1, ?_⟩
  -- a refused group is in none of the other outcomes: no group is sent there, or all are accepted
  cases h with
  | unwritten => cases hmem
  | appended => cases List.mem_singleton.mp hmem
  | declared _ _ _ haccepted =>
    rcases List.mem_append.mp hmem with hmem | hmem
    · exact absurd hmem (hnot haccepted.forall₂)
    · cases List.mem_singleton.mp hmem
  | undeclared _ _ hdeclaration =>
    -- the refused exchange is the last one, behind those of the groups before it
    obtain ⟨before, last, later, ys, reply', problem', hsplit, hys, rfl, hrefused', rfl⟩ :=
      hdeclaration.split
    have hlength := hys.length_eq
    have hi : i = before.length := by
      rcases Nat.lt_or_ge i ys.length with hlt | hge
      · rw [List.getElem?_append_left hlt] at hx
        exact absurd (List.mem_of_getElem? hx) (hnot hys)
      · have hbound := (List.getElem?_eq_some_iff.mp hx).1
        rw [List.length_append, List.length_singleton] at hbound
        omega
    subst hi
    rw [hlength, List.getElem?_concat_length] at hx
    cases hx
    rw [hrefused] at hrefused'
    cases hrefused'
    have hcommands : ys.map Prod.fst =
        before.map (Command.createGroup (p.streamName e.eventType)) :=
      (map_eq_of_forall₂ hys fun _ _ hdeclares => hdeclares.command)
    refine ⟨?_, ?_, rfl, rfl⟩
    · simp [hsplit]
    · have htake : p.consumerGroups.take (before.length + 1) = before ++ [group] := by
        rw [hsplit, List.take_append, List.take_of_length_le (Nat.le_succ _)]
        simp
      rw [htake, List.map_append, List.map_append, hcommands]
      rfl

/-- When all groups were declared among the exchanges, the stream is known afterwards. -/
theorem Outcome.declared_of_sublist (h : Outcome p e declared xs declared' answer)
    {stream : String} {ys : List Exchange} (hsub : ys.Sublist xs)
    (hall : List.Forall₂ (Declares stream) p.consumerGroups ys) :
    stream ∈ declared' ∨ p.consumerGroups = [] := by
  by_cases hnone : p.consumerGroups = []
  · exact .inr hnone
  left
  obtain ⟨group, groups, hgroups⟩ := List.exists_cons_of_ne_nil hnone
  have hfirst : ∃ y ∈ ys, Declares stream group y := by
    rw [hgroups] at hall
    cases hall with
    | cons hy _ => exact ⟨_, List.mem_cons_self, hy⟩
  obtain ⟨y, hy, hcommand, -⟩ := hfirst
  have hstream := h.stream (hsub.subset hy)
  rw [hcommand] at hstream
  obtain rfl : stream = p.streamName e.eventType := Option.some.inj hstream
  -- where no group is sent there is none to have been declared, and where one is refused they are
  -- too few
  cases h with
  | unwritten => cases hsub.subset hy
  | appended =>
    have heq := List.mem_singleton.mp (hsub.subset hy)
    rw [heq] at hcommand
    cases hcommand
  | declared => exact List.mem_cons_self
  | undeclared _ _ hrefused =>
    -- the refused group is none of the accepted ones, which are then too few
    obtain ⟨before, refused, later, zs, reply, problem, hsplit, hzs, rfl, hrefused, -⟩ :=
      hrefused.split
    obtain ⟨ys₁, ys₂, rfl, hys₁, hys₂⟩ := List.sublist_append_iff.mp hsub
    have hnil : ys₂ = [] := by
      rcases List.sublist_singleton.mp hys₂ with hnil | hone
      · exact hnil
      · subst hone
        obtain ⟨group', -, hdeclares⟩ := exists_left_of_forall₂ hall
          (List.mem_append_right ys₁ List.mem_cons_self)
        exact absurd hrefused (hdeclares.not_refused problem)
    subst hnil
    have hlength := hall.length_eq
    have hbefore := hzs.length_eq
    have hshort := hys₁.length_le
    rw [hsplit, List.length_append, List.length_cons, List.append_nil] at hlength
    omega

end Outcome

/-! ## §2 Sessions -/

namespace Session

variable {S : Type} {serve : Command → S → Reply × S}

/-- What publishing an event exchanges is one of the outcomes, and all that is added to the
journal. -/
theorem exchanged_outcome (p : Publisher) (serve : Command → S → Reply × S) (w : Session S)
    (e : Event κ) : ∃ answer,
      Outcome p e w.declared (exchanged p serve w e) (after p serve w e).declared answer ∧
      (publish p serve e).run w = (.ok answer, after p serve w e) ∧
      (after p serve w e).journal = w.journal ++ exchanged p serve w e := by
  obtain ⟨xs, answer, houtcome, hrun, hjournal⟩ := publish_outcome p serve e w
  have hxs : exchanged p serve w e = xs := by
    rw [exchanged, hjournal, List.drop_left]
  rw [hxs]
  exact ⟨answer, houtcome, hrun, hjournal⟩

/-- Events in two parts are events in a row. -/
theorem afterAll_append (w : Session S) (es es' : List (Event κ)) :
    afterAll p serve w (es ++ es') = afterAll p serve (afterAll p serve w es) es' :=
  List.foldl_append

/-- Groups are declared on a stream no more, once it is known or when there are none. -/
theorem no_more_groups (es : List (Event κ)) {w : Session S} {stream : String}
    (h : stream ∈ w.declared ∨ p.consumerGroups = []) :
    ∃ later, (afterAll p serve w es).journal = w.journal ++ later ∧
      ∀ x ∈ later, ∀ group, x.1 ≠ .createGroup stream group := by
  -- on the events: what is known stays known, and only unknown streams are declared
  induction es generalizing w with
  | nil => exact ⟨[], (List.append_nil _).symm, by simp⟩
  | cons e es ih =>
    obtain ⟨answer, houtcome, -, hjournal⟩ := exchanged_outcome p serve w e
    obtain ⟨later, hlater, hnone⟩ := ih (w := after p serve w e)
      (h.imp_left fun hknown => houtcome.subset hknown)
    refine ⟨exchanged p serve w e ++ later, ?_, fun x hx group hcommand => ?_⟩
    · rw [← List.append_assoc, ← hjournal]
      exact hlater
    · rcases List.mem_append.mp hx with hx | hx
      · obtain ⟨hnew, hgroup⟩ := houtcome.createGroup hx hcommand
        rcases h with hknown | hempty
        · exact hnew hknown
        · simp [hempty] at hgroup
      · exact hnone x hx group hcommand

/-- A stream stays unknown as long as nothing is written for it. -/
theorem still_unknown (es : List (Event κ)) {w : Session S} {stream : String}
    (hnew : stream ∉ w.declared)
    (hes : ∀ e ∈ es, p.streamName e.eventType ≠ stream ∨ ∃ f, Publisher.entry e = .error f) :
    stream ∉ (afterAll p serve w es).declared := by
  induction es generalizing w with
  | nil => exact hnew
  | cons e es ih =>
    refine ih (w := after p serve w e) ?_ fun e' he' => hes e' (List.mem_cons_of_mem _ he')
    obtain ⟨answer, houtcome, -⟩ := exchanged_outcome p serve w e
    rcases hes e List.mem_cons_self with hne | ⟨f, hentry⟩
    · rw [houtcome.other_stream (Ne.symm hne)]
      exact hnew
    · rw [after, publish_unwritten hentry]
      exact hnew

/-- Every group was declared on every known stream, and before every append. -/
structure Orderly (p : Publisher) (w : Session S) : Prop where
  known : ∀ stream ∈ w.declared, ∀ group ∈ p.consumerGroups,
    ∃ x ∈ w.journal, Declares stream group x
  appended : ∀ before stream fields reply rest,
    w.journal = before ++ (.append stream fields, reply) :: rest →
    ∀ group ∈ p.consumerGroups, ∃ x ∈ before, Declares stream group x

/-- Nothing is known at first, and nothing appended. -/
theorem orderly_start (server : S) : Orderly p ⟨server, [], []⟩ := by
  constructor
  · simp
  · intro before stream fields reply rest hsplit
    simp at hsplit

/-- Publishing one more event keeps the order: it appends only where it declared, or where the
stream was known. -/
theorem Orderly.after {w : Session S} (hw : w.Orderly p) (serve : Command → S → Reply × S)
    (e : Event κ) : (after p serve w e).Orderly p := by
  obtain ⟨answer, houtcome, -, hjournal⟩ := exchanged_outcome p serve w e
  constructor
  case known =>
    intro stream hstream group hgroup
    rw [hjournal]
    -- a stream that is new was declared by this very event
    rcases houtcome.known hstream with hold | hall
    · obtain ⟨x, hx, hdeclares⟩ := hw.known stream hold group hgroup
      exact ⟨x, List.mem_append_left _ hx, hdeclares⟩
    · obtain ⟨x, hx, hdeclares⟩ := hall group hgroup
      exact ⟨x, List.mem_append_right _ hx, hdeclares⟩
  case appended =>
    intro before stream fields reply rest hsplit group hgroup
    rw [hjournal] at hsplit
    rcases append_eq_append_cons hsplit with ⟨ys, rfl, hys⟩ | ⟨ys, hold⟩
    · -- the append is one of the new exchanges
      obtain ⟨-, -, hknown | hall⟩ := houtcome.append hys
      · obtain ⟨x, hx, hdeclares⟩ := hw.known stream hknown group hgroup
        exact ⟨x, List.mem_append_left _ hx, hdeclares⟩
      · obtain ⟨x, hx, hdeclares⟩ := exists_right_of_forall₂ hall hgroup
        exact ⟨x, List.mem_append_right _ hx, hdeclares⟩
    · exact hw.appended before stream fields reply ys hold group hgroup

/-- The order is kept over any events. -/
theorem Orderly.afterAll {w : Session S} (hw : w.Orderly p) (serve : Command → S → Reply × S)
    (es : List (Event κ)) : (afterAll p serve w es).Orderly p := by
  induction es generalizing w with
  | nil => exact hw
  | cons e es ih => exact ih (hw.after serve e)

/-! ## §3 One stream among others -/

/-- The exchanges about a stream. -/
def about (stream : String) (xs : List Exchange) : List Exchange :=
  xs.filter fun x => x.1.stream? = some stream

/-- Exchanges about a stream are found in each part of a journal. -/
theorem about_append (stream : String) (xs ys : List Exchange) :
    about stream (xs ++ ys) = about stream xs ++ about stream ys :=
  List.filter_append xs ys

/-- What an event exchanges is all about its stream. -/
theorem about_of_outcome {declared declared' : List String} {xs : List Exchange}
    {answer : Except Failure Unit} (h : Outcome p e declared xs declared' answer)
    (stream : String) :
    about stream xs = if p.streamName e.eventType = stream then xs else [] := by
  unfold about
  split
  case isTrue hstream =>
    rw [List.filter_eq_self]
    intro x hx
    simp [h.stream hx, hstream]
  case isFalse hstream =>
    rw [List.filter_eq_nil_iff]
    intro x hx
    simp [h.stream hx, hstream]

/-- The exchanges about a stream, and whether it is known, are those of a session in which nothing
else is published and the server gives the same replies. -/
theorem replay_about (p : Publisher) (serve : Command → S → Reply × S) (server : S)
    (stream : String) (es : List (Event κ)) (rest : List Reply) :
    ∃ known,
      afterAll p scripted
          ⟨(about stream (afterAll p serve ⟨server, [], []⟩ es).journal).map Prod.snd ++ rest,
            [], []⟩
          (es.filter fun e => p.streamName e.eventType = stream) =
        ⟨rest, known, about stream (afterAll p serve ⟨server, [], []⟩ es).journal⟩ ∧
      (stream ∈ known ↔ stream ∈ (afterAll p serve ⟨server, [], []⟩ es).declared) := by
  -- on the events from the last one, whose replies are those that the others leave over
  induction es using List.reverseRecOn generalizing rest with
  | nil => exact ⟨[], rfl, Iff.rfl⟩
  | append_singleton es e ih =>
    rw [afterAll_append]
    show ∃ known, afterAll p scripted ⟨(about stream (after p serve _ e).journal).map Prod.snd ++
      rest, [], []⟩ _ = ⟨rest, known, about stream (after p serve _ e).journal⟩ ∧
        (stream ∈ known ↔ stream ∈ (after p serve _ e).declared)
    generalize afterAll p serve ⟨server, [], []⟩ es = w at ih
    obtain ⟨answer, houtcome, -, hjournal⟩ := exchanged_outcome p serve w e
    rw [hjournal, about_append, about_of_outcome houtcome, List.filter_append]
    by_cases hstream : p.streamName e.eventType = stream
    · -- the event is published with the same replies as before
      rw [if_pos hstream, List.filter_cons_of_pos (by simpa using hstream), List.filter_nil,
        List.map_append, List.append_assoc, afterAll_append]
      obtain ⟨known, hrun, hknown⟩ := ih ((exchanged p serve w e).map Prod.snd ++ rest)
      rw [hrun]
      subst hstream
      exact houtcome.replay hknown rest _
    · -- the event is about another stream
      rw [if_neg hstream, List.filter_cons_of_neg (by simpa using hstream), List.filter_nil,
        List.append_nil, List.append_nil, houtcome.other_stream (Ne.symm hstream)]
      exact ih rest

/-! ## §4 The rules of a publisher -/

/-- How a publisher with fixed consumer groups treats the streams of a server. -/
structure DeclaresOnce (κ : Type) [EventCatalog κ] (p : Publisher)
    (serve : Command → S → Reply × S) : Prop where
  /-- From the start of a session on, an entry is appended to a stream only after every group was
  declared on it. -/
  before_append : ∀ (server : S) (es : List (Event κ)) before stream fields reply rest,
    (afterAll p serve ⟨server, [], []⟩ es).journal =
      before ++ (.append stream fields, reply) :: rest →
    ∀ group ∈ p.consumerGroups, ∃ x ∈ before, Declares stream group x
  /-- Once all groups were declared on a stream while one event was published, no group is declared
  on it again. -/
  once : ∀ (w : Session S) (e : Event κ) stream xs, xs.Sublist (exchanged p serve w e) →
    List.Forall₂ (Declares stream) p.consumerGroups xs → ∀ es : List (Event κ),
      ∃ later, (afterAll p serve w (e :: es)).journal = (after p serve w e).journal ++ later ∧
        ∀ x ∈ later, ∀ group, x.1 ≠ .createGroup stream group
  /-- When a group is refused, it and the groups before it were sent in their order, and no entry.
  The failure says so, the stream is no more known than before, and the next event for it begins
  with the first group again, whatever happens to other streams in between. -/
  refused : ∀ (w : Session S) (e : Event κ) i stream group reply,
    (exchanged p serve w e)[i]? = some (.createGroup stream group, reply) → ¬ reply.Accepted →
    stream = p.streamName e.eventType ∧ p.consumerGroups[i]? = some group ∧
      (exchanged p serve w e).map Prod.fst =
        (p.consumerGroups.take (i + 1)).map (.createGroup stream) ∧
      (∃ f, f.code = .publishFailed ∧
        (publish p serve e).run w = (.ok (.error f), after p serve w e)) ∧
      (after p serve w e).declared = w.declared ∧
      ∀ (es : List (Event κ)) (e' : Event κ) fields,
        (∀ b ∈ es, p.streamName b.eventType ≠ stream ∨ ∃ f, Publisher.entry b = .error f) →
        p.streamName e'.eventType = stream → Publisher.entry e' = .ok fields →
          ((exchanged p serve (afterAll p serve w (e :: es)) e').map Prod.fst).head? =
            p.consumerGroups.head?.map (.createGroup stream)
  /-- An event without a JSON form sends nothing. -/
  unwritten : ∀ (w : Session S) (e : Event κ) reason, e.payload = .error reason →
    ∃ f, f.code = .serializationError ∧ (publish p serve e).run w = (.ok (.error f), w)
  /-- What is sent for a stream can be replayed from its own events and replies. -/
  alone : ∀ (server : S) (es : List (Event κ)) stream,
    let own := about stream (afterAll p serve ⟨server, [], []⟩ es).journal
    (afterAll p scripted ⟨own.map Prod.snd, [], []⟩
      (es.filter fun e => p.streamName e.eventType = stream)).journal = own
  /-- Publishing always answers, and without a failure exactly when the entry was sent and answered
  with a text. -/
  answers : ∀ (w : Session S) (e : Event κ), ∃ answer,
    (publish p serve e).run w = (.ok answer, after p serve w e) ∧
      (answer = .ok () ↔ ∃ before fields reply text,
        exchanged p serve w e =
            before ++ [(.append (p.streamName e.eventType) fields, reply)] ∧
          reply.text = .ok text)

theorem entry_of_payload_error {reason : String} (h : e.payload = .error reason) :
    ∃ f, f.code = .serializationError ∧ Publisher.entry e = .error f := by
  rw [Publisher.entry, h]
  exact ⟨_, rfl, rfl⟩

theorem groupExists_of_not_accepted {r : Reply} (h : ¬ r.Accepted) :
    ∃ problem, Publisher.groupExists r = .error problem := by
  cases hexists : Publisher.groupExists r with
  | error problem => exact ⟨problem, rfl⟩
  | ok _ => exact absurd (groupExists_eq_ok_iff.mp hexists) h

/-- Whatever a server replies, a publisher declares the groups of a stream before it appends to it,
and does not declare them again when all were accepted. -/
theorem streams_declared_once (p : Publisher) (serve : Command → S → Reply × S) :
    DeclaresOnce κ p serve := by
  constructor
  case before_append => exact fun server es => ((orderly_start server).afterAll serve es).appended
  case once =>
    intro w e stream xs hsub hall es
    obtain ⟨answer, houtcome, -⟩ := exchanged_outcome p serve w e
    exact no_more_groups es (houtcome.declared_of_sublist hsub hall)
  case refused =>
    intro w e i stream group reply hx hnot
    obtain ⟨problem, hproblem⟩ := groupExists_of_not_accepted hnot
    obtain ⟨answer, houtcome, hrun, -⟩ := exchanged_outcome p serve w e
    obtain ⟨hstream, hnew, hgroup, hcommands, hsame, rfl⟩ := houtcome.refused hx hproblem
    refine ⟨hstream, hgroup, hcommands, ⟨_, rfl, hrun⟩, hsame, ?_⟩
    intro es e' fields hes he' hentry
    obtain ⟨first, groups, hgroups⟩ : ∃ first groups, p.consumerGroups = first :: groups :=
      List.exists_cons_of_ne_nil fun hnil => by simp [hnil] at hgroup
    -- the stream is still unknown when the next event comes
    have hunknown : stream ∉ (afterAll p serve (after p serve w e) es).declared :=
      still_unknown es (hsame ▸ hnew) hes
    obtain ⟨answer', houtcome', -⟩ := exchanged_outcome p serve (afterAll p serve w (e :: es)) e'
    have hhead := houtcome'.head (he'.symm ▸ hunknown) hentry hgroups
    rw [hhead, he', hgroups]
    rfl
  case unwritten =>
    intro w e reason hpayload
    obtain ⟨f, hcode, hentry⟩ := entry_of_payload_error hpayload
    exact ⟨f, hcode, publish_unwritten hentry⟩
  case alone =>
    intro server es stream own
    obtain ⟨known, hrun, -⟩ := replay_about p serve server stream es []
    rw [List.append_nil] at hrun
    exact congrArg Session.journal hrun
  case answers =>
    intro w e
    obtain ⟨answer, houtcome, hrun, -⟩ := exchanged_outcome p serve w e
    exact ⟨answer, hrun, houtcome.ok_iff⟩

/-- The second group is refused at first, and exists when it is declared again. -/
example :
    let replies : List Reply := [.simple "OK", .error "ERR out of memory", .simple "OK",
      .error "BUSYGROUP Consumer Group name already exists", .bulk "1-1", .bulk "1-2"]
    let publisher : Publisher := ⟨"shop", ["billing", "mail"]⟩
    let w := afterAll publisher scripted ⟨replies, [], []⟩ ((List.range 3).map Shop.created)
    (w.journal.map fun x => x.1.words.take 4) =
      [["XGROUP", "CREATE", "shop:item.created.v1", "billing"],
        ["XGROUP", "CREATE", "shop:item.created.v1", "mail"],
        ["XGROUP", "CREATE", "shop:item.created.v1", "billing"],
        ["XGROUP", "CREATE", "shop:item.created.v1", "mail"],
        ["XADD", "shop:item.created.v1", "*", "event_id"],
        ["XADD", "shop:item.created.v1", "*", "event_id"]] := by
  decide +kernel

end Session

end EventOutbox.Stream
