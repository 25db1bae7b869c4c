import EventOutbox.Proofs.Json.RoundTrip
import EventOutbox.Proofs.Settings.Environment
import EventOutbox.Proofs.Settings.Records

/-!
# The environment and JSON give the same settings

Settings are read from variables, whose values are texts, and from a JSON object, whose values have
types.  A choice of settings that is spelled in either way is read as the same settings, or refused
both ways: a value stands for the same number as decimal digits and as an integer, and a number that
does not fit its field is refused in both forms.

## Main statement

- `Settings.App.load_agrees_with_json`
-/

namespace EventOutbox

namespace Settings

/-! ## §1 Values in both forms -/

/-- A value of the settings: an address or a number. -/
inductive Value where
  | text (t : String)
  | number (n : UInt64)
deriving DecidableEq, Repr

namespace Value

/-- The value of a variable. -/
def spelled : Value → String
  | .text t => t
  | .number n => String.ofList (Text.decimal n.toNat)

/-- The value in JSON. -/
def json : Value → Json
  | .text t => .text t
  | .number n => .integer n.toNat

end Value

/-- A number as one of 32 bits, if it fits. -/
def narrow? (n : UInt64) : Option UInt32 :=
  if n.toNat < UInt32.size then some (UInt32.ofNat n.toNat) else none

/-- A number that fits is not changed. -/
theorem toNat_of_narrow? {n : UInt64} {v : UInt32} (h : narrow? n = some v) :
    v.toNat = n.toNat := by
  by_cases hn : n.toNat < UInt32.size
  · rw [narrow?, if_pos hn] at h
    cases h
    exact UInt32.toNat_ofNat_of_lt' hn
  · rw [narrow?, if_neg hn] at h
    cases h

/-- Numbers that are set or left out stay as they are when they fit. -/
theorem map_toNat_of_narrow? {n : Option UInt64} {v : Option UInt32}
    (h : (n.map narrow?).sequence = some v) : v.map UInt32.toNat = n.map UInt64.toNat := by
  cases n with
  | none =>
    cases h
    rfl
  | some n =>
    obtain ⟨w, hw, rfl⟩ := Option.map_eq_some_iff.mp h
    exact congrArg some (toNat_of_narrow? hw)

namespace Value

/-- What a value is for a field of some shape. -/
def read : (s : Shape) → Value → Option s.Val
  | .text, .text t => some t
  | .u32, .number n => narrow? n
  | .u64, .number n => some n
  | .option s, x => (x.read s).map some
  | _, _ => none

@[simp] theorem read_u32 (n : UInt64) : (number n).read .u32 = narrow? n := rfl

@[simp] theorem read_u64 (n : UInt64) : (number n).read .u64 = some n := rfl

/-- Whether a value is of the kind that a field of some shape asks for. -/
inductive Suits : Shape → Value → Prop where
  | text (t : String) : Suits .text (.text t)
  | u32 (n : UInt64) : Suits .u32 (.number n)
  | u64 (n : UInt64) : Suits .u64 (.number n)
  | option {s : Shape} {x : Value} (h : Suits s x) : Suits (.option s) x

theorem Suits.of_number {s : Shape} (hs : ∀ n, Suits s (.number n)) {n : Option UInt64} {x : Value}
    (h : n.map .number = some x) : x.Suits s := by
  obtain ⟨m, -, rfl⟩ := Option.map_eq_some_iff.mp h
  exact hs m

theorem json_ne_null (x : Value) : x.json ≠ .null := by
  cases x <;> nofun

/-- A variable is read as its value. -/
theorem Suits.toOption_decodeEnv {s : Shape} {x : Value} (h : Suits s x) (key : String) :
    (decodeEnv s key (.value x.spelled)).toOption = x.read s := by
  induction h with
  | text t => rfl
  | u32 n =>
    -- the text is read as a number of 64 bits, which has to fit afterwards
    have hread : decodeEnv .u32 key (.value (spelled (.number n))) =
        (readWordNumber key (spelled (.number n))).bind fun n =>
          if n < UInt32.size then .ok (UInt32.ofNat n) else .error (.tooLarge n key) := rfl
    rw [hread, spelled, readWordNumber_decimal, read_u32, narrow?]
    by_cases hn : n.toNat < UInt32.size
    · show (if n.toNat < UInt32.size then _ else _ : Except EnvError UInt32).toOption = _
      rw [if_pos hn, if_pos hn]
      rfl
    · show (if n.toNat < UInt32.size then _ else _ : Except EnvError UInt32).toOption = _
      rw [if_neg hn, if_neg hn]
      rfl
  | u64 n =>
    have hread : decodeEnv .u64 key (.value (spelled (.number n))) =
        (readWordNumber key (spelled (.number n))).bind fun n => .ok (UInt64.ofNat n) := rfl
    rw [hread, spelled, readWordNumber_decimal, read_u64]
    exact congrArg some UInt64.ofNat_toNat
  | @option s x h ih =>
    exact (toOption_map some (decodeEnv s key (.value x.spelled))).trans
      (congrArg (Option.map some) ih)

/-- A JSON value is read as its value. -/
theorem Suits.toOption_decode {s : Shape} {x : Value} (h : Suits s x) :
    (s.decode x.json).toOption = x.read s := by
  induction h with
  | text t => rfl
  | u32 n =>
    -- the number is compared with the bounds of the field at once
    have hread : Shape.decode .u32 (json (.number n)) =
        (decodeInteger "u32" 0 4294967295 (.integer n.toNat)).map fun n => UInt32.ofNat n.toNat :=
      rfl
    rw [hread, decodeInteger, read_u32, narrow?]
    by_cases hn : n.toNat < UInt32.size
    · have hfits : (0 : Int) ≤ n.toNat ∧ (n.toNat : Int) ≤ 4294967295 := by
        simp only [UInt32.size] at hn
        omega
      rw [if_pos hfits, if_pos hn]
      rfl
    · have hbeyond : ¬((0 : Int) ≤ n.toNat ∧ (n.toNat : Int) ≤ 4294967295) := by
        simp only [UInt32.size] at hn
        omega
      rw [if_neg hbeyond, if_neg hn]
      rfl
  | u64 n => exact congrArg Except.toOption (decodeInteger_u64 n)
  | @option s x h ih =>
    rw [Shape.decode_option_of_ne_null s (json_ne_null x)]
    exact (toOption_map some (s.decode x.json)).trans (congrArg (Option.map some) ih)

end Value

/-! ## §2 Choices of settings -/

/-- A choice of settings: the address of the database, and numbers that are set or left out. -/
structure Choice where
  url : String
  maxConnections : Option UInt64 := none
  acquireTimeoutMs : Option UInt64 := none
  statementTimeoutMs : Option UInt64 := none
  batchSize : Option UInt64 := none
  pollIntervalMs : Option UInt64 := none
  maxAttempts : Option UInt64 := none
  timeoutSecs : Option UInt64 := none
deriving DecidableEq, Repr

namespace Choice

/-- The value that is chosen for a field of a section, unless it is left out. -/
def value? (n : Choice) (section_ field : String) : Option Value :=
  match section_, field with
  | "database", "url" => some (.text n.url)
  | "database", "max_connections" => n.maxConnections.map .number
  | "database", "acquire_timeout_ms" => n.acquireTimeoutMs.map .number
  | "database", "statement_timeout_ms" => n.statementTimeoutMs.map .number
  | "dispatcher", "batch_size" => n.batchSize.map .number
  | "dispatcher", "poll_interval_ms" => n.pollIntervalMs.map .number
  | "dispatcher", "max_attempts" => n.maxAttempts.map .number
  | "redis", "timeout_secs" => n.timeoutSecs.map .number
  | _, _ => none

/-- The variables, each with the section and the field that it sets. -/
def names : List (String × String × String) :=
  [("OUTBOX_RELAY__DATABASE__URL", "database", "url"),
    ("OUTBOX_RELAY__DATABASE__MAX_CONNECTIONS", "database", "max_connections"),
    ("OUTBOX_RELAY__DATABASE__ACQUIRE_TIMEOUT_MS", "database", "acquire_timeout_ms"),
    ("OUTBOX_RELAY__DATABASE__STATEMENT_TIMEOUT_MS", "database", "statement_timeout_ms"),
    ("OUTBOX_RELAY__DISPATCHER__BATCH_SIZE", "dispatcher", "batch_size"),
    ("OUTBOX_RELAY__DISPATCHER__POLL_INTERVAL_MS", "dispatcher", "poll_interval_ms"),
    ("OUTBOX_RELAY__DISPATCHER__MAX_ATTEMPTS", "dispatcher", "max_attempts"),
    ("OUTBOX_RELAY__REDIS__TIMEOUT_SECS", "redis", "timeout_secs")]

/-- The variables that spell a choice. -/
def spelled (n : Choice) : Environment :=
  names.filterMap fun (variable_, s, f) => (n.value? s f).map fun x => (variable_, x.spelled)

/-- Whether a JSON value has the values of a choice, in objects under the names of the sections. -/
def WrittenIn (n : Choice) (j : Json) : Prop :=
  ∃ entries, j = .object entries ∧ InSections .object Value.json entries n.value?

/-- The JSON form of a choice, with an object for every section that has values to choose. -/
def json (n : Choice) : Json :=
  .object <| ["database", "dispatcher", "redis"].map fun s =>
    (s, .object <| names.filterMap fun (_, s', f) =>
      if s' = s then (n.value? s f).map fun x => (f, x.json) else none)

/-- The database settings of a choice, unless the number of connections does not fit. -/
def database? (n : Choice) : Option Database := do
  let maxConnections ← (n.maxConnections.map narrow?).sequence
  some
    { url := n.url
      maxConnections := maxConnections.getD 10
      acquireTimeoutMs := n.acquireTimeoutMs.getD 5000
      statementTimeoutMs := n.statementTimeoutMs.getD 30000
      runMigrations := false }

/-- The dispatcher settings of a choice, unless a number does not fit. -/
def dispatcher? (n : Choice) : Option Dispatcher := do
  let batchSize ← (n.batchSize.map narrow?).sequence
  let maxAttempts ← (n.maxAttempts.map narrow?).sequence
  some { batchSize := batchSize.getD 20, pollIntervalMs := n.pollIntervalMs.getD 1000, maxAttempts }

/-- The settings of a choice: the numbers that are set and the standard values of all others. -/
def app? (n : Choice) : Option App := do
  let database ← n.database?
  let dispatcher ← n.dispatcher?
  some { database, dispatcher, stream := { timeoutSecs := n.timeoutSecs.getD 5 } }

/-- Settings keep a choice when every number that is set is the number in its field. -/
structure KeptIn (n : Choice) (app : App) : Prop where
  url : app.database.url = n.url
  maxConnections : ∀ m ∈ n.maxConnections, app.database.maxConnections.toNat = m.toNat
  acquireTimeoutMs : ∀ m ∈ n.acquireTimeoutMs, app.database.acquireTimeoutMs = m
  statementTimeoutMs : ∀ m ∈ n.statementTimeoutMs, app.database.statementTimeoutMs = m
  batchSize : ∀ m ∈ n.batchSize, app.dispatcher.batchSize.toNat = m.toNat
  pollIntervalMs : ∀ m ∈ n.pollIntervalMs, app.dispatcher.pollIntervalMs = m
  maxAttempts : app.dispatcher.maxAttempts.map UInt32.toNat = n.maxAttempts.map UInt64.toNat
  timeoutSecs : ∀ m ∈ n.timeoutSecs, app.stream.timeoutSecs = m

theorem placeOf?_of_mem_names {variable_ s f : String} (h : (variable_, s, f) ∈ names) :
    placeOf? variable_ = some [.name s, .name f] := by
  have hall : ∀ e ∈ names, placeOf? e.1 = some [.name e.2.1, .name e.2.2] := by decide +kernel
  exact hall (variable_, s, f) h

/-- Every value of a choice has a variable. -/
theorem mem_names_of_value? {n : Choice} {s f : String} {x : Value} (h : n.value? s f = some x) :
    (s, f) ∈ names.map Prod.snd := by
  unfold value? at h
  -- one case for each of the eight fields, and one for all others
  split at h
  all_goals simp [names] at h ⊢

/-- The entries that are made for a section have what is chosen for its fields. -/
theorem lookup_filterMap (n : Choice) (s f : String) (l : List (String × String × String)) :
    (l.filterMap fun (_, s', f) =>
      if s' = s then (n.value? s f).map fun x => (f, x.json) else none).lookup f =
        if (s, f) ∈ l.map Prod.snd then (n.value? s f).map Value.json else none := by
  -- on the names; an entry counts when both the section and the field are its own
  induction l with
  | nil => rfl
  | cons e l ih =>
    obtain ⟨_, s', f'⟩ := e
    simp only [List.map_cons, List.mem_cons, Prod.mk.injEq, List.filterMap_cons]
    by_cases hs : s' = s
    · subst hs
      by_cases hf : f = f'
      · subst hf
        cases hx : n.value? s' f with
        | none => simpa only [hx, if_true, Option.map_none, ite_self] using ih
        | some x => simp
      · cases hx : n.value? s' f' with
        | none => simpa only [if_true, Option.map_none, hf, and_false, false_or] using ih
        | some x =>
          simpa only [if_true, Option.map_some, List.lookup_cons, beq_false_of_ne hf, hf, and_false,
            false_or] using ih
    · simpa only [if_neg hs, Ne.symm hs, false_and, false_or] using ih

/-- Every choice has a JSON form. -/
theorem writtenIn_json (n : Choice) : n.WrittenIn n.json := by
  refine ⟨_, rfl, fun s => ?_⟩
  by_cases hs : s ∈ ["database", "dispatcher", "redis"]
  · refine .inr ⟨_, List.lookup_graph _ hs, fun f => ?_⟩
    rw [lookup_filterMap]
    cases hx : n.value? s f with
    | none => exact ite_self none
    | some x => rw [if_pos (mem_names_of_value? hx)]
  · -- no field of another section has a name
    refine .inl ⟨by simpa [List.lookup_eq_none_iff] using hs, fun f => ?_⟩
    cases hx : n.value? s f with
    | none => rfl
    | some x =>
      have hsections : ∀ e ∈ names.map Prod.snd, e.1 ∈ ["database", "dispatcher", "redis"] := by
        decide
      exact absurd (hsections _ (mem_names_of_value? hx)) hs

/-- The values of a choice are of the kinds that the fields ask for. -/
theorem suits_of_value? {n : Choice} {s name f : String} {fs : Fields} {shape : Shape} {x : Value}
    (hs : (s, .record name fs) ∈ App.fields.shapes) (hf : (f, shape) ∈ fs.shapes)
    (h : n.value? s f = some x) : x.Suits shape := by
  -- there are four sections, each with its own fields
  simp only [App.fields, Fields.shapes, Database.shape, Dispatcher.shape, Stream.shape,
    Telemetry.shape, List.mem_cons, List.not_mem_nil, or_false, Prod.mk.injEq,
    Shape.record.injEq] at hs
  rcases hs with ⟨rfl, -, rfl⟩ | ⟨rfl, -, rfl⟩ | ⟨rfl, -, rfl⟩ | ⟨rfl, -, rfl⟩
  · simp only [Database.fields, Fields.shapes, List.mem_cons, List.not_mem_nil, or_false,
      Prod.mk.injEq] at hf
    rcases hf with ⟨rfl, rfl⟩ | ⟨rfl, rfl⟩ | ⟨rfl, rfl⟩ | ⟨rfl, rfl⟩ | ⟨rfl, rfl⟩
    · cases h
      exact .text n.url
    · exact .of_number .u32 h
    · exact .of_number .u64 h
    · exact .of_number .u64 h
    · cases h
  · simp only [Dispatcher.fields, Fields.shapes, List.mem_cons, List.not_mem_nil, or_false,
      Prod.mk.injEq] at hf
    rcases hf with ⟨rfl, rfl⟩ | ⟨rfl, rfl⟩ | ⟨rfl, rfl⟩
    · exact .of_number .u32 h
    · exact .of_number .u64 h
    · exact .of_number (fun m => .option (.u32 m)) h
  · simp only [Stream.fields, Fields.shapes, List.mem_cons, List.not_mem_nil, or_false,
      Prod.mk.injEq] at hf
    rcases hf with ⟨rfl, rfl⟩ | ⟨rfl, rfl⟩ | ⟨rfl, rfl⟩ | ⟨rfl, rfl⟩
    · cases h
    · cases h
    · cases h
    · exact .of_number .u64 h
  · -- nothing is chosen for the log
    simp only [Telemetry.fields, Fields.shapes, List.mem_cons, List.not_mem_nil, or_false,
      Prod.mk.injEq] at hf
    rcases hf with ⟨rfl, rfl⟩ | ⟨rfl, rfl⟩ <;> cases h

/-! ## §3 Sections -/

/-- What stands under the name of a section: nothing when all its fields are left out, or what its
fields give. -/
def Found (n : Choice) (s : String) (fs : Fields) (found : Option (Option fs.Val)) : Prop :=
  (found = none ∧ ∀ f, n.value? s f = none) ∨
    found = some (fs.gather fun f shape => (n.value? s f).map (Value.read shape))

/-- A section that is left out gives what one without fields gives. -/
theorem Found.defaulted {n : Choice} {s : String} {fs : Fields} {found : Option (Option fs.Val)}
    (h : n.Found s fs found) {σ : Type} {ofVal : fs.Val → σ} {standard : σ}
    (hstandard : (fs.gather fun _ _ => none).map ofVal = some standard) :
    found.sequence.map (fun v => (v.map ofVal).getD standard) =
      (fs.gather fun f shape => (n.value? s f).map (Value.read shape)).map ofVal := by
  rcases h with ⟨rfl, hnone⟩ | rfl
  · -- gathering from nothing is what the standard settings stand for
    simp only [hnone]
    exact hstandard.symm
  · cases fs.gather fun f shape => (n.value? s f).map (Value.read shape) <;> rfl

theorem sequence_read_u64 (m : Option UInt64) :
    ((m.map Value.number).map (Value.read .u64)).sequence = some m := by
  cases m <;> rfl

theorem sequence_read_u32 (m : Option UInt64) :
    ((m.map Value.number).map (Value.read .u32)).sequence = (m.map narrow?).sequence := by
  cases m <;> rfl

theorem sequence_read_option (m : Option UInt64) :
    ((m.map Value.number).map (Value.read (.option .u32))).sequence =
      (m.map narrow?).sequence.map (Option.map some) := by
  rcases m with _ | m
  · rfl
  · show ((narrow? m).map some).map some = ((narrow? m).map some).map (Option.map some)
    cases narrow? m <;> rfl

/-- The database settings are gathered from the values of the choice. -/
theorem gather_database (n : Choice) :
    (Database.fields.gather fun f shape =>
      (n.value? "database" f).map (Value.read shape)).map Database.ofVal = n.database? := by
  unfold Database.fields
  simp only [Fields.gather, value?, sequence_read_u32, sequence_read_u64]
  rw [database?]
  cases (n.maxConnections.map narrow?).sequence <;> rfl

/-- The dispatcher settings are gathered from the values of the choice. -/
theorem gather_dispatcher (n : Choice) :
    (Dispatcher.fields.gather fun f shape =>
      (n.value? "dispatcher" f).map (Value.read shape)).map Dispatcher.ofVal = n.dispatcher? := by
  unfold Dispatcher.fields
  simp only [Fields.gather, value?, sequence_read_u32, sequence_read_u64, sequence_read_option]
  rw [dispatcher?]
  -- a refused size refuses the settings, and so does a refused limit
  rcases (n.batchSize.map narrow?).sequence with _ | b
  · rfl
  · rcases (n.maxAttempts.map narrow?).sequence with _ | _ | m <;> rfl

theorem gather_stream (n : Choice) :
    (Stream.fields.gather fun f shape =>
      (n.value? "redis" f).map (Value.read shape)).map Stream.ofVal =
        some { timeoutSecs := n.timeoutSecs.getD 5 } := by
  unfold Stream.fields
  simp only [Fields.gather, value?, sequence_read_u64]
  rfl

theorem gather_telemetry (n : Choice) :
    (Telemetry.fields.gather fun f shape =>
      (n.value? "telemetry" f).map (Value.read shape)).map Telemetry.ofVal = some {} := by
  unfold Telemetry.fields
  simp only [Fields.gather, value?]
  rfl

/-- The settings are made section by section. -/
theorem gather_sections (read : String → (s : Shape) → Option (Option s.Val)) :
    (App.fields.gather read).map App.ofVal = (do
      let database ← ((read "database" Database.shape).getD none).map Database.ofVal
      let dispatcher ← (read "dispatcher" Dispatcher.shape).sequence.map
        fun v => (v.map Dispatcher.ofVal).getD {}
      let stream ← (read "redis" Stream.shape).sequence.map fun v => (v.map Stream.ofVal).getD {}
      let telemetry ← (read "telemetry" Telemetry.shape).sequence.map
        fun v => (v.map Telemetry.ofVal).getD {}
      some { database, dispatcher, stream, telemetry }) := by
  unfold App.fields
  simp only [Fields.gather, show Database.shape.absent? = none from rfl]
  -- where a section is refused, both sides are
  rcases (read "database" Database.shape).getD none with _ | database
  · rfl
  rcases (read "dispatcher" Dispatcher.shape).sequence with _ | dispatcher
  · rfl
  rcases (read "redis" Stream.shape).sequence with _ | stream
  · rfl
  rcases (read "telemetry" Telemetry.shape).sequence with _ | telemetry
  · rfl
  · rfl

/-- When every section is found, the settings of the choice are read. -/
theorem gather_app {n : Choice} {read : String → (s : Shape) → Option (Option s.Val)}
    (h : ∀ {s name : String} {fs : Fields}, (s, .record name fs) ∈ App.fields.shapes →
      n.Found s fs (read s (.record name fs))) :
    (App.fields.gather read).map App.ofVal = n.app? := by
  have hdatabase : ((read "database" Database.shape).getD none).map Database.ofVal =
      n.database? := by
    rcases @h "database" "DatabaseConfig" Database.fields (.head _) with ⟨-, hnone⟩ | hfound
    · -- the address is never left out
      have hurl : some (Value.text n.url) = none := hnone "url"
      cases hurl
    · rw [← gather_database]
      exact congrArg (fun v => (Option.getD v none).map Database.ofVal) hfound
  have hdispatcher : ((read "dispatcher" Dispatcher.shape).sequence.map
      fun v => (v.map Dispatcher.ofVal).getD {}) = n.dispatcher? :=
    (Found.defaulted (h (.tail _ (.head _))) rfl).trans n.gather_dispatcher
  have hstream : ((read "redis" Stream.shape).sequence.map
      fun v => (v.map Stream.ofVal).getD {}) = some { timeoutSecs := n.timeoutSecs.getD 5 } :=
    (Found.defaulted (h (.tail _ (.tail _ (.head _)))) rfl).trans n.gather_stream
  have htelemetry : ((read "telemetry" Telemetry.shape).sequence.map
      fun v => (v.map Telemetry.ofVal).getD {}) = some {} :=
    (Found.defaulted (h (.tail _ (.tail _ (.tail _ (.head _))))) rfl).trans n.gather_telemetry
  rw [gather_sections, hdatabase, hdispatcher, hstream, htelemetry]
  rfl

end Choice

/-- A section is found in either form, when it and its values are read in that form. -/
theorem InSections.found {n : Choice} {τ : Type} {section_ : List (String × τ) → τ}
    {value : Value → τ} {entries : List (String × τ)}
    (h : InSections section_ value entries n.value?) {s name : String} {fs : Fields}
    (hs : (s, .record name fs) ∈ App.fields.shapes)
    {decode : τ → Option fs.Val} {read : String → (shape : Shape) → τ → Option shape.Val}
    (hsection : ∀ es, decode (section_ es) =
      fs.gather fun f shape => (es.lookup f).map (read f shape))
    (hvalue : ∀ (f : String) {shape : Shape} {x : Value}, x.Suits shape →
      read f shape (value x) = x.read shape) :
    n.Found s fs ((entries.lookup s).map decode) := by
  -- the section is missing, or it stands there with its values
  rcases h s with ⟨hnone, hleft⟩ | ⟨es, hes, hvalues⟩
  · exact .inl ⟨by rw [hnone]; rfl, hleft⟩
  · refine .inr ?_
    rw [hes, Option.map_some, hsection]
    refine congrArg some (Fields.gather_congr fun e he => ?_)
    rw [hvalues]
    cases hx : n.value? s e.1 with
    | none => rfl
    | some x => exact congrArg some (hvalue e.1 (Choice.suits_of_value? hs he hx))

/-! ## §4 Both forms -/

namespace Choice

variable {n : Choice} {env others : Environment}

/-- A variable that spells a value sets the field that the value is chosen for. -/
theorem mem_spelled_iff {v : String × String} : v ∈ n.spelled ↔
    ∃ s f x, (v.1, s, f) ∈ names ∧ n.value? s f = some x ∧ v.2 = x.spelled := by
  obtain ⟨variable_, text⟩ := v
  simp only [spelled, List.mem_filterMap, Option.map_eq_some_iff, Prod.exists, Prod.mk.injEq]
  constructor
  · rintro ⟨_, s, f, hname, x, hx, rfl, rfl⟩
    exact ⟨s, f, x, hname, hx, rfl⟩
  · rintro ⟨s, f, x, hname, hx, rfl⟩
    exact ⟨variable_, s, f, hname, x, hx, rfl, rfl⟩

/-- A variable of the environment does not matter, or it spells a value. -/
theorem placeOf?_of_perm (henv : env.Perm (n.spelled ++ others))
    (hothers : ∀ v ∈ others, placeOf? v.1 = none) {v : String × String} (hv : v ∈ env) :
    placeOf? v.1 = none ∨ ∃ s f x, placeOf? v.1 = some [.name s, .name f] ∧
      n.value? s f = some x ∧ v.2 = x.spelled := by
  rcases List.mem_append.mp (henv.subset hv) with hspelled | hother
  · obtain ⟨s, f, x, hname, hx, htext⟩ := mem_spelled_iff.mp hspelled
    exact .inr ⟨s, f, x, placeOf?_of_mem_names hname, hx, htext⟩
  · exact .inl (hothers v hother)

/-- The variables of a choice give every field its text. -/
theorem textAt?_of_perm (henv : env.Perm (n.spelled ++ others))
    (hothers : ∀ v ∈ others, placeOf? v.1 = none) (s f : String) :
    env.textAt? s f = (n.value? s f).map Value.spelled := by
  rw [Environment.textAt?]
  cases hfind : env.reverse.find? fun v => placeOf? v.1 = some [.name s, .name f] with
  | none =>
    -- a value would have a variable in the environment
    cases hx : n.value? s f with
    | none => rfl
    | some x =>
      obtain ⟨⟨variable_, _⟩, hname, rfl⟩ := List.mem_map.mp (mem_names_of_value? hx)
      have hmem : (variable_, x.spelled) ∈ env :=
        henv.symm.subset (List.mem_append_left _ (mem_spelled_iff.mpr ⟨s, f, x, hname, hx, rfl⟩))
      have hplace := List.find?_eq_none.mp hfind _ (List.mem_reverse.mpr hmem)
      exact absurd (placeOf?_of_mem_names hname) (by simpa using hplace)
  | some v =>
    have hmem : v ∈ env := List.mem_reverse.mp (List.mem_of_find?_eq_some hfind)
    have hplace : placeOf? v.1 = some [.name s, .name f] := by simpa using List.find?_some hfind
    rcases placeOf?_of_perm henv hothers hmem with hnone | ⟨s', f', x, hplace', hx, htext⟩
    · rw [hnone] at hplace
      cases hplace
    · rw [hplace'] at hplace
      cases hplace
      rw [hx, Option.map_some, Option.map_some, htext]

/-- The settings that the variables of a choice give. -/
theorem toOption_load (henv : env.Perm (n.spelled ++ others))
    (hothers : ∀ v ∈ others, placeOf? v.1 = none) : (App.load env).toOption = n.app? := by
  have hflat : env.Flat := fun v hv => by
    rcases placeOf?_of_perm henv hothers hv with hnone | ⟨s, f, -, hplace, -, -⟩
    · exact .inl hnone
    · exact .inr ⟨s, f, hplace⟩
  -- the tree has the texts of the chosen values, so that every section is found in it
  obtain ⟨es, htree, hes⟩ := Environment.tree?_of_flat hflat
  have hvalues : InSections EnvTree.section_ (fun x => .value x.spelled) es n.value? := by
    simpa only [InSections, textAt?_of_perm henv hothers, Option.map_map, Option.map_eq_none_iff,
      Function.comp_def] using hes
  have hload : (App.load env).toOption =
      (decodeEnv App.shape "" (.section_ es)).toOption.map App.ofVal := by
    simp only [App.load, htree]
    cases decodeEnv App.shape "" (.section_ es) <;> rfl
  rw [hload]
  refine (congrArg (Option.map App.ofVal)
    (toOption_decodeEnv_section "AppConfig" App.fields "" es)).trans (gather_app fun hs => ?_)
  exact hvalues.found hs (toOption_decodeEnv_section _ _ _) fun f _ _ hx => hx.toOption_decodeEnv _

/-- The settings that a JSON value with the values of a choice gives. -/
theorem toOption_ofJson {j : Json} (h : n.WrittenIn j) : (App.ofJson j).toOption = n.app? := by
  obtain ⟨es, rfl, hvalues⟩ := h
  refine (toOption_map App.ofVal (App.shape.decode (.object es))).trans ?_
  refine (congrArg (Option.map App.ofVal)
    (Shape.toOption_decode_object "AppConfig" App.fields es)).trans (gather_app fun hs => ?_)
  exact hvalues.found hs (Shape.toOption_decode_object _ _) fun f _ _ hx => hx.toOption_decode

/-- A number that is set takes the place of the standard value. -/
theorem toNat_of_set {n : Option UInt64} {v : Option UInt32}
    (h : (n.map narrow?).sequence = some v) {m : UInt64} (hm : m ∈ n) (standard : UInt32) :
    (v.getD standard).toNat = m.toNat := by
  have hmap := map_toNat_of_narrow? h
  rw [hm] at hmap
  obtain ⟨w, rfl, hw⟩ := Option.map_eq_some_iff.mp hmap
  exact hw

/-- No number is accepted as another one. -/
theorem keptIn_of_app? {app : App} (h : n.app? = some app) : n.KeptIn app := by
  -- nothing would be read if a number did not fit
  obtain ⟨database, hdatabase, h⟩ := Option.bind_eq_some_iff.mp h
  obtain ⟨dispatcher, hdispatcher, h⟩ := Option.bind_eq_some_iff.mp h
  obtain ⟨most, hmost, hdatabase⟩ := Option.bind_eq_some_iff.mp hdatabase
  obtain ⟨size, hsize, hdispatcher⟩ := Option.bind_eq_some_iff.mp hdispatcher
  obtain ⟨limit, hlimit, hdispatcher⟩ := Option.bind_eq_some_iff.mp hdispatcher
  cases h
  cases hdatabase
  cases hdispatcher
  exact
    { url := rfl
      maxConnections := fun m hm => toNat_of_set hmost hm 10
      acquireTimeoutMs := fun m hm => by rw [hm]; rfl
      statementTimeoutMs := fun m hm => by rw [hm]; rfl
      batchSize := fun m hm => toNat_of_set hsize hm 20
      pollIntervalMs := fun m hm => by rw [hm]; rfl
      maxAttempts := map_toNat_of_narrow? hlimit
      timeoutSecs := fun m hm => by rw [hm]; rfl }

end Choice

/-- Whatever numbers are chosen, the environment that spells them and a JSON value that has them are
read as the same settings, which keep the numbers, or are both refused. -/
theorem App.load_agrees_with_json (n : Choice) {env others : Environment} {j : Json}
    (henv : env.Perm (n.spelled ++ others)) (hothers : ∀ v ∈ others, placeOf? v.1 = none)
    (hj : n.WrittenIn j) :
    (App.load env).toOption = (App.ofJson j).toOption ∧
      (App.load env).toOption = n.app? ∧ ∀ app, App.load env = .ok app → n.KeptIn app := by
  have hload := Choice.toOption_load henv hothers
  refine ⟨hload.trans (Choice.toOption_ofJson hj).symm, hload, fun app happ => ?_⟩
  rw [happ] at hload
  exact Choice.keptIn_of_app? hload.symm

/-- The largest number of 32 bits for the size of a batch. -/
private def largest : Choice :=
  { url := "postgres://relay@db/relay", batchSize := some 4294967295, maxAttempts := some 3 }

private def largestEnv : Environment :=
  [("OUTBOX_RELAY__DISPATCHER__MAX_ATTEMPTS", "3"), ("PATH", "/usr/bin"),
    ("OUTBOX_RELAY__DATABASE__URL", "postgres://relay@db/relay"),
    ("OUTBOX_RELAY__DISPATCHER__BATCH_SIZE", "4294967295")]

/-- The largest number is accepted in both forms. -/
theorem App.largest_number_loads_as_json :
    largestEnv.Perm (largest.spelled ++ [("PATH", "/usr/bin")]) ∧
      (App.load largestEnv).toOption = (App.ofJson largest.json).toOption ∧
      (App.load largestEnv).toOption = some
        { database := { url := "postgres://relay@db/relay" }
          dispatcher := { batchSize := 4294967295, maxAttempts := some 3 } } := by
  have hperm : largestEnv.Perm (largest.spelled ++ [("PATH", "/usr/bin")]) := by decide +kernel
  have hothers : ∀ v ∈ [("PATH", "/usr/bin")], placeOf? v.1 = none := by decide +kernel
  obtain ⟨hsame, hload, -⟩ :=
    App.load_agrees_with_json largest hperm hothers largest.writtenIn_json
  refine ⟨hperm, hsame, hload.trans ?_⟩
  decide +kernel

/-- A number that would be twenty in 32 bits is refused. -/
example : (Choice.mk "postgres://relay@db/relay" none none none (some 4294967316) none none
    none).app? = none := by
  decide

end Settings

end EventOutbox
