import EventOutbox.Event.Registry
import EventOutbox.Outbox.Message
import EventOutbox.Proofs.Json.RoundTrip

/-!
# Events come back from their payloads

A registry reads a discriminator as the kind that was registered last under it, and a kind reads the
JSON form of its faithful events back, and of no others.

## Main statements

- `Registry.find?_ofList`
- `Registry.decode_payload_iff`
-/

namespace EventOutbox

variable {κ : Type} [EventCatalog κ]

/-! ## §1 Payloads -/

/-- An event is faithful when the values of its fields are. -/
def Event.Faithful (e : Event κ) : Prop :=
  (Event.shape e.kind).Faithful e.body

/-- An event that is written has the JSON form of its body. -/
theorem Event.encode_of_payload {e : Event κ} {j : Json} (h : e.payload = .ok j) :
    (Event.shape e.kind).encode e.body = j := by
  rw [Event.payload] at h
  cases hrefusal : e.schema.refusal e.body with
  | some reason =>
    rw [hrefusal] at h
    cases h
  | none =>
    rw [hrefusal] at h
    exact Except.ok.inj h

/-- An event that has a JSON form is read back from it by its kind exactly when it is faithful. -/
theorem Event.ofPayload_payload_iff {e : Event κ} {j : Json}
    (hnames : (Event.shape e.kind).distinctNames = true) (h : e.payload = .ok j) :
    Event.ofPayload e.kind j = .ok e ↔ e.Faithful := by
  rw [← Event.encode_of_payload h]
  refine map_eq_ok.trans (Iff.trans ⟨?_, ?_⟩ (Shape.decode_encode_iff hnames e.body))
  -- the body is told apart by the event, as both are of one kind
  · rintro ⟨body, hread, hsame⟩
    have hbody : body = e.body := by
      obtain ⟨kind, own⟩ := e
      cases hsame
      rfl
    rwa [hbody] at hread
  · exact fun hread => ⟨e.body, hread, rfl⟩

/-! ## §2 Registrations -/

/-- Of the kinds that are registered in order, this one is the last under its discriminator. -/
def RegisteredLast (kinds : List κ) (kind : κ) : Prop :=
  ∃ before after, kinds = before ++ kind :: after ∧ ∀ other ∈ after,
    (EventCatalog.schema other).discriminator ≠ (EventCatalog.schema kind).discriminator

namespace Registry

omit [EventCatalog κ] in
/-- Registering puts the later kinds first. -/
theorem kinds_ofList (kinds : List κ) : (ofList kinds).kinds = kinds.reverse := by
  have hfold : ∀ r : Registry κ, (kinds.foldl register r).kinds = kinds.reverse ++ r.kinds := by
    induction kinds with
    | nil => exact fun r => rfl
    | cons kind kinds ih =>
      intro r
      rw [List.foldl_cons, ih, register, List.reverse_cons, List.append_assoc,
        List.singleton_append]
  rw [ofList, hfold, List.append_nil]

/-- A discriminator stands for the kind that was registered last under it. -/
theorem find?_ofList {kinds : List κ} {kind : κ} (h : RegisteredLast kinds kind) :
    (ofList kinds).find? (EventCatalog.schema kind).discriminator = some kind := by
  obtain ⟨before, after, rfl, hlast⟩ := h
  have hafter : after.reverse.find? (fun other => decide ((EventCatalog.schema other).discriminator
      = (EventCatalog.schema kind).discriminator)) = none := by
    -- a kind that was registered later has another discriminator
    rw [List.find?_eq_none]
    intro other hother heq
    exact hlast other (List.mem_reverse.mp hother) (of_decide_eq_true heq)
  rw [find?, kinds_ofList, List.reverse_append, List.reverse_cons, List.append_assoc,
    List.find?_append, hafter]
  simp

/-- A registry that has the kind of an event registered last reads the event back from its payload
exactly when the event is faithful. -/
theorem decode_payload_iff {kinds : List κ} {e : Event κ} {j : Json}
    (hnames : (Event.shape e.kind).distinctNames = true) (h : RegisteredLast kinds e.kind)
    (hpayload : e.payload = .ok j) :
    (ofList kinds).decode e.eventType j = .ok e ↔ e.Faithful := by
  have hfind : (ofList kinds).find? e.eventType = some e.kind := find?_ofList h
  rw [decode, hfind]
  exact mapError_eq_ok.trans (Event.ofPayload_payload_iff hnames hpayload)

end Registry

end EventOutbox
