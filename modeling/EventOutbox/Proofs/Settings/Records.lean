import EventOutbox.Json.Decoder
import EventOutbox.Settings.Environment

/-!
# Records gather their fields

A record is read field by field, from the entries of a JSON object and from a section of variables
alike.  Apart from which fault is reported, both give what is gathered from the fields: each is read
as what stands under its name, and none may be refused or missing.

## Main statements

- `Shape.toOption_decode_object`
- `Settings.toOption_decodeEnv_section`
-/

namespace EventOutbox

/-! ## §1 Gathering fields -/

namespace Fields

/-- The fields with their shapes, in order. -/
def shapes : Fields → List (String × Shape)
  | .nil => []
  | .cons name _ s rest => (name, s) :: rest.shapes

/-- The values of all fields, unless one is refused or missing.  What stands under the name of a
field, if anything, is read as the shape of the field. -/
def gather : (fs : Fields) → (read : String → (s : Shape) → Option (Option s.Val)) → Option fs.Val
  | .nil, _ => some ()
  | .cons name .required s rest, read => do
    let v ← (read name s).getD s.absent?
    let vs ← rest.gather read
    some (v, vs)
  | .cons name .defaulted s rest, read => do
    let v ← (read name s).sequence
    let vs ← rest.gather read
    some (v, vs)

/-- Only what stands under the names of the fields counts. -/
theorem gather_congr {read read' : String → (s : Shape) → Option (Option s.Val)} :
    ∀ {fs : Fields}, (∀ e ∈ fs.shapes, read e.1 e.2 = read' e.1 e.2) →
      fs.gather read = fs.gather read'
  | .nil, _ => rfl
  | .cons name presence s rest, h => by
    have hhead : read name s = read' name s := h (name, s) List.mem_cons_self
    have htail : rest.gather read = rest.gather read' :=
      gather_congr fun e he => h e (List.mem_cons_of_mem _ he)
    cases presence <;> rw [gather, gather, hhead, htail]

/-! ## §2 Objects -/

/-- An object gives what its fields give. -/
theorem toOption_decodeEntries (find : String → Option Json) : ∀ fs : Fields,
    (fs.decodeEntries find).toOption =
      fs.gather fun name s => (find name).map fun j => (s.decode j).toOption
  | .nil => rfl
  | .cons name .required s rest => by
    rw [gather, ← toOption_decodeEntries find rest, decodeEntries]
    -- of two faults one is preferred, but either way nothing is gathered
    cases find name with
    | none => cases s.absent? <;> cases rest.decodeEntries find <;> rfl
    | some j =>
      simp only [Option.map_some]
      cases s.decode j <;> cases rest.decodeEntries find <;> rfl
  | .cons name .defaulted s rest => by
    rw [gather, ← toOption_decodeEntries find rest, decodeEntries]
    cases find name with
    | none => cases rest.decodeEntries find <;> rfl
    | some j =>
      simp only [Option.map_some]
      cases s.decode j <;> cases rest.decodeEntries find <;> rfl

end Fields

theorem toOption_mapError {ε δ α : Type} (f : ε → δ) (x : Except ε α) :
    (x.mapError f).toOption = x.toOption := by
  cases x <;> rfl

theorem toOption_map {ε α β : Type} (f : α → β) (x : Except ε α) :
    (x.map f).toOption = x.toOption.map f := by
  cases x <;> rfl

/-- An object gives, as the settings of a section, what its fields give. -/
theorem Shape.toOption_decode_object (name : String) (fs : Fields)
    (entries : List (String × Json)) :
    ((Shape.record name fs).decode (.object entries)).toOption =
      fs.gather fun f s => (Json.find? entries f).map fun j => (s.decode j).toOption :=
  (toOption_mapError FieldFault.error _).trans
    (Fields.toOption_decodeEntries (Json.find? entries) fs)

/-! ## §3 Sections of variables -/

namespace Settings

/-- A section of variables gives what its fields give. -/
theorem toOption_decodeEnvFields (key : String) (find : String → Option EnvTree) : ∀ fs : Fields,
    (decodeEnvFields fs key find).toOption =
      fs.gather fun name s => (find name).map fun t => (decodeEnv s (keyBelow key name) t).toOption
  | .nil => rfl
  | .cons name .required s rest => by
    rw [Fields.gather, ← toOption_decodeEnvFields key find rest, decodeEnvFields]
    cases find name with
    | none => cases s.absent? <;> cases decodeEnvFields rest key find <;> rfl
    | some t =>
      simp only [Option.map_some]
      cases decodeEnv s (keyBelow key name) t <;> cases decodeEnvFields rest key find <;> rfl
  | .cons name .defaulted s rest => by
    rw [Fields.gather, ← toOption_decodeEnvFields key find rest, decodeEnvFields]
    cases find name with
    | none => cases decodeEnvFields rest key find <;> rfl
    | some t =>
      simp only [Option.map_some]
      cases decodeEnv s (keyBelow key name) t <;> cases decodeEnvFields rest key find <;> rfl

theorem toOption_decodeEnv_section (name : String) (fs : Fields) (key : String)
    (entries : List (String × EnvTree)) :
    (decodeEnv (.record name fs) key (.section_ entries)).toOption =
      fs.gather fun f s =>
        (entries.lookup f).map fun t => (decodeEnv s (keyBelow key f) t).toOption :=
  (toOption_mapError EnvFault.error _).trans
    (toOption_decodeEnvFields key (fun f => entries.lookup f) fs)

end Settings

end EventOutbox
