import EventOutbox.Json.Decoder
import EventOutbox.Json.Encoder
import EventOutbox.Proofs.Text.Identifiers
import EventOutbox.Proofs.Text.Instants

/-!
# Typed values survive their JSON form

When no record has two fields of one name, exactly the *faithful* values of a shape are read back
from the JSON form that is written for them: those whose instants run past no second within a minute
and whose optional values are present or written as null, but not both.  Whatever a reader returns
is faithful.

The proof follows the shape: the leaves are the texts of identifiers and instants and the ranges of
the integers, and a record is read field by field from the look-up function of its entries.

## Main statements

- `Shape.decode_encode_iff`
- `Shape.faithful_of_decode`
-/

namespace EventOutbox

/-! ## §1 Faithful values -/

mutual

/-- Whether no record within the shape has two fields of one name. -/
def Shape.distinctNames : Shape → Bool
  | .option s => s.distinctNames
  | .list s => s.distinctNames
  | .record _ fs => fs.distinctNames
  | _ => true

/-- Whether the names of the fields are distinct, and those within their shapes. -/
def Fields.distinctNames : Fields → Bool
  | .nil => true
  | .cons name _ s rest => !rest.names.contains name && s.distinctNames && rest.distinctNames

end

mutual

/-- The values that can be told from their JSON form: instants are regular, and an optional value
that is present is not written like one that is absent. -/
def Shape.Faithful : (s : Shape) → s.Val → Prop
  | .instant, v => Instant.Regular v
  | .option s, v =>
    match v with
    | some v => s.encode v ≠ .null ∧ s.Faithful v
    | none => True
  | .list s, v => ∀ x, List.Mem x v → s.Faithful x
  | .record _ fs, v => fs.Faithful v
  | _, _ => True

/-- Records are faithful when all their fields are, apart from those that are left out. -/
def Fields.Faithful : (fs : Fields) → fs.Val → Prop
  | .nil, _ => True
  | .cons _ .required s rest, (v, vs) => s.Faithful v ∧ rest.Faithful vs
  | .cons _ .defaulted s rest, (v, vs) =>
    match v with
    | some v => s.Faithful v ∧ rest.Faithful vs
    | none => rest.Faithful vs

end

/-! ## §2 Integers -/

/-- A number within the bounds is read as it is. -/
theorem decodeInteger_of_mem {expected : String} {least most n : Int} (hl : least ≤ n)
    (hm : n ≤ most) : decodeInteger expected least most (.integer n) = .ok n := by
  simp [decodeInteger, hl, hm]

/-- Numbers of thirty-two bits are read back, as none of them is out of bounds. -/
theorem decodeInteger_u32 (v : UInt32) :
    ((decodeInteger "u32" 0 4294967295 (.integer v.toNat)).map fun n => UInt32.ofNat n.toNat)
      = .ok v := by
  have hv : v.toNat < 4294967296 := v.toNat_lt
  rw [decodeInteger_of_mem (by omega) (by omega)]
  simp [Except.map]

theorem decodeInteger_u64 (v : UInt64) :
    ((decodeInteger "u64" 0 18446744073709551615 (.integer v.toNat)).map
      fun n => UInt64.ofNat n.toNat) = .ok v := by
  have hv : v.toNat < 18446744073709551616 := v.toNat_lt
  rw [decodeInteger_of_mem (by omega) (by omega)]
  simp [Except.map]

/-- Signed numbers are read back, down to the least of them. -/
theorem decodeInteger_i64 (v : Int64) :
    (decodeInteger "i64" (-9223372036854775808) 9223372036854775807 (.integer v.toInt)).map
      Int64.ofInt = .ok v := by
  have hl : -9223372036854775808 ≤ v.toInt := v.le_toInt
  have hm : v.toInt < 9223372036854775808 := v.toInt_lt
  rw [decodeInteger_of_mem hl (by omega)]
  simp [Except.map]

/-! ## §3 Lists and optional values -/

/-- What is read back item by item is read back as a list. -/
theorem decodeItems_map {α : Type} {decode : Json → Except DecodeError α} {encode : α → Json}
    {l : List α} (h : ∀ a ∈ l, decode (encode a) = .ok a) :
    decodeItems decode (l.map encode) = .ok l := by
  induction l with
  | nil => rfl
  | cons a l ih =>
    have hhead := h a List.mem_cons_self
    have htail := ih fun b hb => h b (List.mem_cons_of_mem a hb)
    simp [decodeItems, hhead, htail]

/-- What is read as a list is read item by item. -/
theorem exists_of_decodeItems {α : Type} {decode : Json → Except DecodeError α} {js : List Json}
    {l : List α} (h : decodeItems decode js = .ok l) : ∀ a ∈ l, ∃ j ∈ js, decode j = .ok a := by
  -- on the values that are read, the first of which is read from the first item
  induction js generalizing l with
  | nil =>
    obtain rfl := Except.ok.inj h
    simp
  | cons j js ih =>
    rw [decodeItems] at h
    cases hhead : decode j with
    | error e =>
      rw [hhead] at h
      cases h
    | ok a =>
      rw [hhead] at h
      cases htail : decodeItems decode js with
      | error e =>
        rw [htail] at h
        cases h
      | ok rest =>
        rw [htail] at h
        obtain rfl := Except.ok.inj h
        intro b hb
        rcases List.mem_cons.mp hb with rfl | hb
        · exact ⟨j, List.mem_cons_self, hhead⟩
        · obtain ⟨k, hk, hdecode⟩ := ih htail b hb
          exact ⟨k, List.mem_cons_of_mem j hk, hdecode⟩

/-- Beside null, an optional value is read as the value is. -/
theorem Shape.decode_option_of_ne_null (s : Shape) {j : Json} (h : j ≠ .null) :
    (Shape.option s).decode j = (s.decode j).map some := by
  cases j with
  | null => exact absurd rfl h
  | _ => rfl

/-! ## §4 Records -/

namespace Fields

variable {name : String} {s : Shape} {rest : Fields} {find : String → Option Json} {j : Json}
  {v : s.Val} {vs : rest.Val}

/-- A required field is read from its entry. -/
theorem decodeEntries_required (hfind : find name = some j) (hv : s.decode j = .ok v)
    (hvs : rest.decodeEntries find = .ok vs) :
    (cons name .required s rest).decodeEntries find = .ok (v, vs) := by
  unfold decodeEntries
  simp [hfind, hv, hvs, Except.mapError]

/-- A field with a default is read from its entry if there is one. -/
theorem decodeEntries_defaulted (hfind : find name = some j) (hv : s.decode j = .ok v)
    (hvs : rest.decodeEntries find = .ok vs) :
    (cons name .defaulted s rest).decodeEntries find = .ok (some v, vs) := by
  unfold decodeEntries
  simp [hfind, hv, hvs, Except.mapError, Except.map]

theorem decodeEntries_defaulted_none (hfind : find name = none)
    (hvs : rest.decodeEntries find = .ok vs) :
    (cons name .defaulted s rest).decodeEntries find = .ok (none, vs) := by
  unfold decodeEntries
  simp [hfind, hvs]

/-- A record has entries under the names of its fields only. -/
theorem find?_encode_of_notMem : ∀ (fs : Fields) (v : fs.Val) {name : String},
    name ∉ fs.names → Json.find? (fs.encode v) name = none
  | .nil, _, _, _ => rfl
  | .cons field .required s rest, (v, vs), name, h => by
    obtain ⟨hne, hrest⟩ : name ≠ field ∧ name ∉ rest.names := by simpa [names] using h
    have hne' : (name == field) = false := by simpa using hne
    have hrec := find?_encode_of_notMem rest vs hrest
    simpa [encode, Json.find?, List.lookup_cons, hne'] using hrec
  | .cons field .defaulted s rest, (none, vs), name, h => by
    obtain ⟨-, hrest⟩ : name ≠ field ∧ name ∉ rest.names := by simpa [names] using h
    have hrec := find?_encode_of_notMem rest vs hrest
    simpa [encode] using hrec
  | .cons field .defaulted s rest, (some v, vs), name, h => by
    obtain ⟨hne, hrest⟩ : name ≠ field ∧ name ∉ rest.names := by simpa [names] using h
    have hne' : (name == field) = false := by simpa using hne
    have hrec := find?_encode_of_notMem rest vs hrest
    simpa [encode, Json.find?, List.lookup_cons, hne'] using hrec

/-- Looking past the first entry, under a name that it does not have. -/
theorem find?_cons_of_ne {entries : List (String × Json)} {other : String} (h : other ≠ name) :
    Json.find? ((name, j) :: entries) other = Json.find? entries other := by
  have hne : (other == name) = false := by simpa using h
  simp [Json.find?, List.lookup_cons, hne]

end Fields

/-- Of distinct names the first is not among the others. -/
theorem Fields.distinctNames_cons {name : String} {presence : Presence} {s : Shape} {rest : Fields}
    (h : (Fields.cons name presence s rest).distinctNames = true) :
    name ∉ rest.names ∧ s.distinctNames = true ∧ rest.distinctNames = true := by
  simpa [Fields.distinctNames, and_assoc] using h

mutual

/-- A faithful value is read back from its JSON form. -/
theorem Shape.decode_encode : ∀ (s : Shape), s.distinctNames = true → ∀ v : s.Val, s.Faithful v →
    s.decode (s.encode v) = .ok v
  | .uuid, _, v, _ => congrArg (Except.mapError DecodeError.uuid) (Uuid.ofText_text v)
  | .instant, _, v, hv =>
    congrArg (Except.mapError DecodeError.instant) ((Instant.ofText_text_iff v).mpr hv)
  | .bool, _, _, _ => rfl
  | .text, _, _, _ => rfl
  | .u32, _, v, _ => decodeInteger_u32 v
  | .u64, _, v, _ => decodeInteger_u64 v
  | .i64, _, v, _ => decodeInteger_i64 v
  | .any, _, _, _ => rfl
  | .option s, _, none, _ => rfl
  -- only null is read as an absent value, so a value that is present must be written in another way
  | .option s, h, some v, hv => by
    obtain ⟨hnull, hv⟩ : s.encode v ≠ .null ∧ s.Faithful v := hv
    have hsome := Shape.decode_option_of_ne_null s hnull
    rw [Shape.decode_encode s h v hv] at hsome
    exact hsome
  | .list s, h, v, hv => decodeItems_map fun x hx => Shape.decode_encode s h x (hv x hx)
  | .record name fs, h, v, hv => by
    have hread := Fields.decodeEntries_encode fs h v hv (Json.find? (fs.encode v)) fun _ _ => rfl
    exact congrArg (Except.mapError FieldFault.error) hread

/-- The fields of a record are read back from any entries that agree with the written ones on
their names. -/
theorem Fields.decodeEntries_encode : ∀ (fs : Fields), fs.distinctNames = true → ∀ (v : fs.Val),
    fs.Faithful v → ∀ (find : String → Option Json),
    (∀ name ∈ fs.names, find name = Json.find? (fs.encode v) name) →
    fs.decodeEntries find = .ok v
  | .nil, _, _, _, _, _ => rfl
  | .cons name .required s rest, h, (v, vs), hv, find, hfind => by
    obtain ⟨hfresh, hs, hrest⟩ := Fields.distinctNames_cons h
    -- the entry of the field stands first, and those of the others behind it
    have hhead : find name = some (s.encode v) := by
      rw [hfind name (by simp [Fields.names])]
      simp [Fields.encode, Json.find?]
    have htail : ∀ other ∈ rest.names, find other = Json.find? (rest.encode vs) other := by
      intro other hother
      rw [hfind other (by simp [Fields.names, hother])]
      exact Fields.find?_cons_of_ne fun heq => hfresh (heq ▸ hother)
    exact Fields.decodeEntries_required hhead (Shape.decode_encode s hs v hv.1)
      (Fields.decodeEntries_encode rest hrest vs hv.2 find htail)
  | .cons name .defaulted s rest, h, (none, vs), hv, find, hfind => by
    obtain ⟨hfresh, -, hrest⟩ := Fields.distinctNames_cons h
    -- a field that is left out leaves no entry, and no other field has one of its name
    have hhead : find name = none := by
      rw [hfind name (by simp [Fields.names])]
      exact Fields.find?_encode_of_notMem rest vs hfresh
    have htail : ∀ other ∈ rest.names, find other = Json.find? (rest.encode vs) other :=
      fun other hother => hfind other (by simp [Fields.names, hother])
    exact Fields.decodeEntries_defaulted_none hhead
      (Fields.decodeEntries_encode rest hrest vs hv find htail)
  | .cons name .defaulted s rest, h, (some v, vs), hv, find, hfind => by
    obtain ⟨hfresh, hs, hrest⟩ := Fields.distinctNames_cons h
    have hhead : find name = some (s.encode v) := by
      rw [hfind name (by simp [Fields.names])]
      simp [Fields.encode, Json.find?]
    have htail : ∀ other ∈ rest.names, find other = Json.find? (rest.encode vs) other := by
      intro other hother
      rw [hfind other (by simp [Fields.names, hother])]
      exact Fields.find?_cons_of_ne fun heq => hfresh (heq ▸ hother)
    exact Fields.decodeEntries_defaulted hhead (Shape.decode_encode s hs v hv.1)
      (Fields.decodeEntries_encode rest hrest vs hv.2 find htail)

end

/-! ## §5 What is read -/

/-- Only null is read as a value that is written as null. -/
theorem Shape.encode_ne_null_of_decode : ∀ (s : Shape) {j : Json} {v : s.Val},
    s.decode j = .ok v → j ≠ .null → s.encode v ≠ .null
  | .any, j, v, h, hj => by
    obtain rfl : j = v := Except.ok.inj h
    exact hj
  | .option s, j, v, h, hj => by
    rw [Shape.decode_option_of_ne_null s hj] at h
    cases hread : s.decode j with
    | error e =>
      rw [hread] at h
      cases h
    | ok x =>
      rw [hread] at h
      obtain rfl : some x = v := Except.ok.inj h
      exact Shape.encode_ne_null_of_decode s hread hj
  | .uuid, _, _, _, _ => Json.noConfusion
  | .instant, _, _, _, _ => Json.noConfusion
  | .bool, _, _, _, _ => Json.noConfusion
  | .text, _, _, _, _ => Json.noConfusion
  | .u32, _, _, _, _ => Json.noConfusion
  | .u64, _, _, _, _ => Json.noConfusion
  | .i64, _, _, _, _ => Json.noConfusion
  | .list _, _, _, _, _ => Json.noConfusion
  | .record _ _, _, _, _, _ => Json.noConfusion

/-- The wording of an error makes no difference to what is read. -/
theorem mapError_eq_ok {ε ε' α : Type} {x : Except ε α} {f : ε → ε'} {a : α} :
    x.mapError f = .ok a ↔ x = .ok a := by
  cases x <;> simp [Except.mapError]

theorem map_eq_ok {ε α β : Type} {x : Except ε α} {f : α → β} {b : β} :
    x.map f = .ok b ↔ ∃ a, x = .ok a ∧ f a = b := by
  cases x <;> simp [Except.map]

namespace Fields

variable {name : String} {s : Shape} {rest : Fields} {find : String → Option Json}

/-- A required field is read from its entry, or is an optional value that is left out. -/
theorem of_decodeEntries_required {v : s.Val} {vs : rest.Val}
    (h : (cons name .required s rest).decodeEntries find = .ok (v, vs)) :
    ((∃ j, s.decode j = .ok v) ∨ s.absent? = some v) ∧ rest.decodeEntries find = .ok vs := by
  unfold decodeEntries at h
  simp only at h
  split at h
  case h_1 x y hx hy =>
    obtain ⟨rfl, rfl⟩ := Prod.mk.inj (Except.ok.inj h)
    refine ⟨?_, hy⟩
    split at hx
    case h_1 j _ => exact .inl ⟨j, mapError_eq_ok.mp hx⟩
    case h_2 =>
      split at hx
      case h_1 w hw =>
        obtain rfl := Except.ok.inj hx
        exact .inr hw
      case h_2 => cases hx
  all_goals cases h

/-- A field with a default is read from its entry, if it has one. -/
theorem of_decodeEntries_defaulted {v : Option s.Val} {vs : rest.Val}
    (h : (cons name .defaulted s rest).decodeEntries find = .ok (v, vs)) :
    (∀ x, v = some x → ∃ j, s.decode j = .ok x) ∧ rest.decodeEntries find = .ok vs := by
  unfold decodeEntries at h
  simp only at h
  split at h
  case h_1 x y hx hy =>
    obtain ⟨rfl, rfl⟩ := Prod.mk.inj (Except.ok.inj h)
    refine ⟨fun z hz => ?_, hy⟩
    subst hz
    split at hx
    case h_1 j _ =>
      obtain ⟨w, hw, hsome⟩ := map_eq_ok.mp (mapError_eq_ok.mp hx)
      exact ⟨j, Option.some.inj hsome ▸ hw⟩
    case h_2 => cases Except.ok.inj hx
  all_goals cases h

end Fields

/-- A value that stands for an entry that is left out is absent. -/
theorem Shape.faithful_absent {s : Shape} {v : s.Val} (h : s.absent? = some v) : s.Faithful v := by
  cases s with
  | option s =>
    obtain rfl : none = v := Option.some.inj h
    trivial
  | _ => cases h

mutual

/-- Whatever a reader returns is faithful. -/
theorem Shape.faithful_of_decode : ∀ (s : Shape) {j : Json} {v : s.Val},
    s.decode j = .ok v → s.Faithful v
  | .uuid, _, _, _ => trivial
  | .instant, j, v, h => by
    cases j with
    | text t => exact Instant.regular_of_ofText (mapError_eq_ok.mp h)
    | _ => cases h
  | .bool, _, _, _ => trivial
  | .text, _, _, _ => trivial
  | .u32, _, _, _ => trivial
  | .u64, _, _, _ => trivial
  | .i64, _, _, _ => trivial
  | .any, _, _, _ => trivial
  | .option s, j, none, _ => trivial
  | .option s, j, some v, h => by
    -- a value that is present was read from something else than null, and is not written as null
    -- either
    by_cases hj : j = .null
    · subst hj
      cases Except.ok.inj h
    · rw [Shape.decode_option_of_ne_null s hj] at h
      obtain ⟨w, hw, hsome⟩ := map_eq_ok.mp h
      obtain rfl : w = v := Option.some.inj hsome
      exact ⟨Shape.encode_ne_null_of_decode s hw hj, Shape.faithful_of_decode s hw⟩
  | .list s, j, v, h => by
    cases j with
    | array items =>
      intro x hx
      obtain ⟨k, -, hk⟩ := exists_of_decodeItems h x hx
      exact Shape.faithful_of_decode s hk
    | _ => cases h
  | .record name fs, j, v, h => by
    cases j with
    | object entries => exact Fields.faithful_of_decodeEntries fs (mapError_eq_ok.mp h)
    | array items =>
      unfold Shape.decode at h
      simp only at h
      split at h
      · cases h
      · next hread =>
        obtain rfl := Except.ok.inj h
        exact Fields.faithful_of_decodeArray fs hread
      · cases h
    | _ => cases h

/-- Fields that are read from entries are faithful. -/
theorem Fields.faithful_of_decodeEntries : ∀ (fs : Fields) {find : String → Option Json}
    {v : fs.Val}, fs.decodeEntries find = .ok v → fs.Faithful v
  | .nil, _, _, _ => trivial
  | .cons name .required s rest, find, (v, vs), h => by
    obtain ⟨hread | habsent, hrest⟩ := Fields.of_decodeEntries_required h
    · obtain ⟨j, hj⟩ := hread
      exact ⟨Shape.faithful_of_decode s hj, Fields.faithful_of_decodeEntries rest hrest⟩
    · exact ⟨Shape.faithful_absent habsent, Fields.faithful_of_decodeEntries rest hrest⟩
  | .cons name .defaulted s rest, find, (none, vs), h =>
    Fields.faithful_of_decodeEntries rest (Fields.of_decodeEntries_defaulted h).2
  | .cons name .defaulted s rest, find, (some v, vs), h => by
    obtain ⟨hread, hrest⟩ := Fields.of_decodeEntries_defaulted h
    obtain ⟨j, hj⟩ := hread v rfl
    exact ⟨Shape.faithful_of_decode s hj, Fields.faithful_of_decodeEntries rest hrest⟩

/-- Fields that are read in the order of an array are faithful. -/
theorem Fields.faithful_of_decodeArray : ∀ (fs : Fields) {record : String} {total done : Nat}
    {items left : List Json} {v : fs.Val},
    fs.decodeArray record total done items = .ok (v, left) → fs.Faithful v
  | .nil, _, _, _, _, _, _, _ => trivial
  | .cons name .required s rest, record, total, done, items, left, (v, vs), h => by
    cases items with
    | nil => cases h
    | cons j items =>
      unfold Fields.decodeArray at h
      simp only at h
      split at h
      · cases h
      · next w hw =>
        obtain ⟨p, hp, hpair⟩ := map_eq_ok.mp h
        obtain ⟨⟨rfl, rfl⟩, rfl⟩ := by simpa using hpair
        exact ⟨Shape.faithful_of_decode s hw, Fields.faithful_of_decodeArray rest hp⟩
  | .cons name .defaulted s rest, record, total, done, [], left, (v, vs), h => by
    unfold Fields.decodeArray at h
    obtain ⟨p, hp, hpair⟩ := map_eq_ok.mp h
    obtain ⟨⟨rfl, rfl⟩, rfl⟩ := by simpa using hpair
    exact Fields.faithful_of_decodeArray rest hp
  | .cons name .defaulted s rest, record, total, done, j :: items, left, (v, vs), h => by
    unfold Fields.decodeArray at h
    simp only at h
    split at h
    · cases h
    · next w hw =>
      obtain ⟨p, hp, hpair⟩ := map_eq_ok.mp h
      obtain ⟨⟨rfl, rfl⟩, rfl⟩ := by simpa using hpair
      exact ⟨Shape.faithful_of_decode s hw, Fields.faithful_of_decodeArray rest hp⟩

end

/-- The values that are read back are the faithful ones. -/
theorem Shape.decode_encode_iff {s : Shape} (h : s.distinctNames = true) (v : s.Val) :
    s.decode (s.encode v) = .ok v ↔ s.Faithful v :=
  ⟨s.faithful_of_decode, s.decode_encode h v⟩

end EventOutbox
