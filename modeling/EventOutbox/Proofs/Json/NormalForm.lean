import EventOutbox.Actor.Basic
import EventOutbox.Audit
import EventOutbox.Outbox.LedgerRow
import EventOutbox.Outbox.Message
import EventOutbox.Proofs.Json.RoundTrip

/-!
# Normal forms of records

The readers accept many spellings of a record: identifiers in braces or without hyphens, instants
with an offset, arrays in place of objects, left out optional fields, names that mean nothing.  The
writers know one.  Reading and writing a value therefore *normalizes* it: the result is the one
value that is written for the record, and it stands for all the spellings of that record.

`Coding` collects what this needs of a type: a shape whose records have distinct names, and values
that stand for their fields.  The records of the outbox are codings, and what is proved of a coding
holds of each of them.

## Main statements

- `Coding.read_write_iff`, `Coding.normalize_iff`
- `Actor.ofJson_toJson`, `Audit.ofJson_toJson_iff`, `LedgerRow.ofJson_toJson_iff`
- `Message.normalForm_denotes`
-/

namespace EventOutbox

/-! ## §1 Codings -/

/-- How the values of a type are written as JSON and read from it. -/
structure Coding (α : Type) where
  /-- The shape of the JSON form. -/
  shape : Shape
  /-- The value with the given fields. -/
  ofVal : shape.Val → α
  /-- The fields of a value. -/
  toVal : α → shape.Val
  /-- The records have distinct names. -/
  distinctNames : shape.distinctNames = true
  /-- A value is found again from its fields. -/
  ofVal_toVal : ∀ a, ofVal (toVal a) = a
  /-- Its fields are those that it was made of. -/
  toVal_ofVal : ∀ v, toVal (ofVal v) = v

namespace Coding

variable {α : Type} (c : Coding α) {a b : α} {j k : Json}

/-- Read a value from its JSON form. -/
def read (j : Json) : Except DecodeError α :=
  (c.shape.decode j).map c.ofVal

/-- The JSON form of a value. -/
def write (a : α) : Json :=
  c.shape.encode (c.toVal a)

/-- Read a value and write it again. -/
def normalize (j : Json) : Except DecodeError Json :=
  (c.read j).map c.write

/-- The values that can be told from their JSON form. -/
def Faithful (a : α) : Prop :=
  c.shape.Faithful (c.toVal a)

/-- What is written is read back exactly when the value is faithful. -/
theorem read_write_iff (a : α) : c.read (c.write a) = .ok a ↔ c.Faithful a := by
  rw [read, write, map_eq_ok, Faithful, ← Shape.decode_encode_iff c.distinctNames]
  constructor
  · rintro ⟨v, hread, rfl⟩
    rwa [c.toVal_ofVal] at hread ⊢
  · exact fun hread => ⟨c.toVal a, hread, c.ofVal_toVal a⟩

/-- Whatever is read is faithful. -/
theorem faithful_of_read (h : c.read j = .ok a) : c.Faithful a := by
  obtain ⟨v, hread, rfl⟩ := map_eq_ok.mp h
  rw [Faithful, c.toVal_ofVal]
  exact c.shape.faithful_of_decode hread

/-- What was read once is read again from what is written for it. -/
theorem read_write_of_read (h : c.read j = .ok a) : c.read (c.write a) = .ok a :=
  (c.read_write_iff a).mpr (c.faithful_of_read h)

/-- Normalizing twice is normalizing once. -/
theorem normalize_bind_normalize (j : Json) :
    (c.normalize j >>= c.normalize) = c.normalize j := by
  rw [normalize]
  -- a value that is refused is refused with the same error both times
  cases hread : c.read j with
  | error e => rfl
  | ok a =>
    show c.normalize (c.write a) = .ok (c.write a)
    rw [normalize, c.read_write_of_read hread]
    rfl

/-- Nothing is lost by normalizing before reading. -/
theorem normalize_bind_read (j : Json) : (c.normalize j >>= c.read) = c.read j := by
  rw [normalize]
  cases hread : c.read j with
  | error e => rfl
  | ok a => exact c.read_write_of_read hread

/-- The spellings of a faithful value are those that are normalized to what is written for it, and
other values have no spellings. -/
theorem normalize_iff : c.read j = .ok a ↔ c.normalize j = .ok (c.write a) ∧ c.Faithful a := by
  constructor
  · intro hread
    exact ⟨by rw [normalize, hread]; rfl, c.faithful_of_read hread⟩
  · rintro ⟨hnormal, hfaithful⟩
    -- the value is read from its normal form, and the same value is read from both
    rw [← c.normalize_bind_read j, hnormal]
    exact (c.read_write_iff a).mpr hfaithful

end Coding

/-! ## §2 The records -/

/-- Actors as JSON. -/
def Actor.coding : Coding Actor :=
  { shape := Actor.shape, ofVal := Actor.ofVal, toVal := Actor.toVal
    distinctNames := by decide
    ofVal_toVal := fun _ => rfl
    toVal_ofVal := fun _ => rfl }

/-- Audit fields as JSON. -/
def Audit.coding : Coding Audit :=
  { shape := Audit.shape, ofVal := Audit.ofVal, toVal := Audit.toVal
    distinctNames := by decide
    ofVal_toVal := fun _ => rfl
    toVal_ofVal := fun _ => rfl }

/-- Rows of the ledger as JSON. -/
def LedgerRow.coding : Coding LedgerRow :=
  { shape := LedgerRow.shape, ofVal := LedgerRow.ofVal, toVal := LedgerRow.toVal
    distinctNames := by decide
    ofVal_toVal := fun _ => rfl
    toVal_ofVal := fun _ => rfl }

/-- Rows of the outbox as JSON. -/
def Message.coding : Coding Message :=
  { shape := Message.shape, ofVal := Message.ofVal, toVal := Message.toVal
    distinctNames := by decide
    ofVal_toVal := fun _ => rfl
    toVal_ofVal := fun _ => rfl }

/-! ## §3 What is faithful -/

/-- An optional instant is faithful when it is regular, since no instant is written as null. -/
theorem faithful_option_instant (t : Option Instant) :
    (Shape.option .instant).Faithful t ↔ ∀ s ∈ t, s.Regular := by
  cases t with
  | none => simp [Shape.Faithful]
  | some s =>
    constructor
    · rintro ⟨-, hs⟩ _ ⟨⟩
      exact hs
    · exact fun h => ⟨Json.noConfusion, h s rfl⟩

/-- An optional text is always faithful, since no text is written as null. -/
theorem faithful_option_text (s : Option String) : (Shape.option .text).Faithful s := by
  cases s with
  | none => trivial
  | some s => exact ⟨Json.noConfusion, trivial⟩

/-- Actors have no instants. -/
theorem Actor.ofJson_toJson (a : Actor) : Actor.ofJson a.toJson = .ok a :=
  (Actor.coding.read_write_iff a).mpr ⟨trivial, trivial, trivial⟩

/-- Audit fields are read back when both instants are regular. -/
theorem Audit.ofJson_toJson_iff (a : Audit) : Audit.ofJson a.toJson = .ok a ↔
    (∀ t ∈ a.createdAt, t.Regular) ∧ ∀ t ∈ a.modifiedAt, t.Regular := by
  rw [← faithful_option_instant, ← faithful_option_instant]
  refine (Audit.coding.read_write_iff a).trans ⟨?_, ?_⟩
  · rintro ⟨-, hcreated, -, hmodified, -⟩
    exact ⟨hcreated, hmodified⟩
  · rintro ⟨hcreated, hmodified⟩
    exact ⟨faithful_option_text a.createdBy, hcreated, faithful_option_text a.modifiedBy, hmodified,
      trivial⟩

/-- A row of the ledger is read back when its instant is regular. -/
theorem LedgerRow.ofJson_toJson_iff (r : LedgerRow) :
    LedgerRow.ofJson r.toJson = .ok r ↔ r.processedAt.Regular :=
  (LedgerRow.coding.read_write_iff r).trans
    ⟨fun ⟨_, _, hprocessed, _⟩ => hprocessed, fun h => ⟨trivial, trivial, h, trivial⟩⟩

namespace Message

/-! ## §4 Rows of the outbox -/

/-- The instants of a row run past no second within a minute. -/
structure Regular (m : Message) : Prop where
  created : m.createdAt.Regular
  processed : ∀ t ∈ m.processedAt, t.Regular

/-- A row of the outbox is faithful when its instants are regular: nothing else in it can fail to
come back. -/
theorem faithful_iff (m : Message) : coding.Faithful m ↔ m.Regular := by
  constructor
  · rintro ⟨-, -, -, -, -, -, hcreated, hprocessed, -⟩
    exact ⟨hcreated, (faithful_option_instant m.processedAt).mp hprocessed⟩
  · rintro ⟨hcreated, hprocessed⟩
    exact ⟨trivial, trivial, trivial, trivial, trivial, trivial, hcreated,
      (faithful_option_instant m.processedAt).mpr hprocessed, trivial,
      faithful_option_text m.lastError, trivial⟩

/-- What is written for the row that a value is read as. -/
def normalForm (j : Json) : Except DecodeError Json :=
  (ofJson j).map toJson

/-- A row is read back from its JSON form exactly when its instants are regular.  Whatever the
value, normalizing it twice is normalizing it once, and its normal form is read as the same row or
refused for the same reason; and the values that are read as a row are all those with the row's JSON
form for their normal form, if the row is regular, and none if it is not. -/
theorem normalForm_denotes :
    (∀ m : Message, ofJson m.toJson = .ok m ↔ m.Regular) ∧
    ∀ j : Json,
      (normalForm j >>= normalForm) = normalForm j ∧
      (normalForm j >>= ofJson) = ofJson j ∧
      ∀ m : Message, ofJson j = .ok m ↔ normalForm j = .ok m.toJson ∧ m.Regular := by
  refine ⟨fun m => ?_, fun j => ⟨?_, ?_, fun m => ?_⟩⟩
  · exact (coding.read_write_iff m).trans m.faithful_iff
  · exact coding.normalize_bind_normalize j
  · exact coding.normalize_bind_read j
  · exact coding.normalize_iff.trans (and_congr_right fun _ => m.faithful_iff)

/-- A row that was stored a third of a second after second 5, counted from second 4. -/
private def overrun : Message :=
  { id := Uuid.ofNat 31, eventType := "card.sent", payload := .array [.null]
    aggregateType := "Card", aggregateId := "7", transactionId := Uuid.ofNat 160
    createdAt := .ofFields ⟨2024, 6, 29, by decide⟩ 23 56 4 1333333333
    processedAt := none, retryCount := 3, lastError := none }

/-- A fraction that runs past a second within a minute is written into the seconds, and another
instant is read back. -/
theorem overrun_is_read_as_later_second :
    ofJson overrun.toJson = .ok { overrun with
      createdAt := .ofFields ⟨2024, 6, 29, by decide⟩ 23 56 5 333333333 } ∧
    ofJson overrun.toJson ≠ .ok overrun := by
  decide +kernel

/-- A row with its identifiers in other forms, its time in another zone, and without the fields that
are optional, and the array of its fields in order: one normal form. -/
example :
    let fields : List (String × Json) :=
      [("id", .text "00000000-0000-0000-0000-00000000001f"), ("event_type", .text "card.sent"),
        ("payload", .array [.null]), ("aggregate_type", .text "Card"),
        ("aggregate_id", .text "7"),
        ("transaction_id", .text "00000000-0000-0000-0000-0000000000a0"),
        ("created_at", .text "2024-06-30T23:59:60.500Z"), ("processed_at", .null),
        ("retry_count", .integer 3), ("last_error", .null)]
    let spelling : List (String × Json) :=
      [("note", .text "by air"), ("transaction_id", .text "000000000000000000000000000000A0"),
        ("id", .text "{00000000-0000-0000-0000-00000000001F}"), ("event_type", .text "card.sent"),
        ("created_at", .text "2024-07-01t01:59:60.5000000001 +02:00"),
        ("payload", .array [.null]), ("aggregate_type", .text "Card"),
        ("aggregate_id", .text "7"), ("retry_count", .integer 3)]
    normalForm (.object spelling) = .ok (.object fields) ∧
      normalForm (.array (fields.map Prod.snd)) = .ok (.object fields) := by
  decide +kernel

end Message

end EventOutbox
