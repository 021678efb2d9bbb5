import SchemaCompiler.Proofs.Decimal.Representable
import SchemaCompiler.Proofs.Text.Lowercase
import SchemaCompiler.Proofs.Validation.Accepted
import SchemaCompiler.Proofs.Validation.Fragments

/-!
Validating once more what validation returned. Most values come back as they were given, and what
is changed (floats, singles and set members) is changed into something that is kept from then on.
-/

namespace SchemaCompiler.Validation

open Decimal Outcome

variable {f : Field} {value : Json} {v : Value}

/-! Values -/

theorem lower_again (s : String) : Text.lower (Text.lower s) = Text.lower s := by
  simp only [Text.lower, String.toList_ofList, Text.lower_idempotent]

theorem double_again (accepted : extractDouble f value = .ok v) :
    extractDouble f v.toJson = .ok v := by
  obtain ⟨x, converted, checked, rfl⟩ := (double_accepted_iff f value v).mp accepted
  apply (double_accepted_iff f _ _).mpr
  exact ⟨x, to_float_again converted, checked, rfl⟩

/-- A single is finite and narrowed to itself, so it has the same text again. -/
theorem single_again (accepted : extractSingle f value = .ok v) :
    extractSingle f v.toJson = .ok v := by
  obtain ⟨x, y, text, converted, narrowed, written, checked, rfl⟩ :=
    (single_accepted_iff f value v).mp accepted
  have finite : toFloat (.float y) = .ok y := by
    obtain ⟨negative, mantissa, exponent, rfl⟩ := to_float_finite converted
    obtain ⟨m, e, rfl, _⟩ := to_single_finite narrowed
    rfl
  apply (single_accepted_iff f _ _).mpr
  exact ⟨y, y, text, finite, to_single_idempotent narrowed, written, checked, rfl⟩

theorem member_again (accepted : extractMember f value = .ok v) :
    extractMember f v.toJson = .ok v := by
  obtain ⟨s, members, rfl, listed, contained, rfl⟩ := (member_accepted_iff f value v).mp accepted
  apply (member_accepted_iff f _ _).mpr
  refine ⟨Text.lower s, members, rfl, listed, ?_, ?_⟩
  · rw [lower_again]
    exact contained
  · rw [lower_again]

/-! Serialized records -/

/-- The members of a record in its serialized form. -/
def written (found : List (String × TypedValue)) : List (WideText × Json) :=
  found.map fun (title, typed) => (.plain title, typed.value.toJson)

theorem written_titles (found : List (String × TypedValue)) :
    (written found).map Prod.fst = (found.map Prod.fst).map .plain := by
  simp [written, Function.comp_def]

theorem member_written {found : List (String × TypedValue)}
    (distinct : (found.map Prod.fst).Nodup) :
    ∀ entry ∈ found, Json.member? entry.1 (written found) = some entry.2.value.toJson := by
  intro entry member
  apply Association.lookup_of_distinct
  · rw [written_titles]
    exact distinct.map fun _ _ => WideText.plain.inj
  · exact List.mem_map.mpr ⟨entry, member, rfl⟩

section Names

variable [Pattern.CharacterNames]

/-- What a value is extracted to is extracted to itself. One case for each datatype. -/
theorem extract_value_again (accepted : extractValue f value = .ok v) :
    extractValue f v.toJson = .ok v := by
  -- A value that comes back as it was given has nothing more to show.
  have kept (same : v.toJson = value) : extractValue f v.toJson = .ok v := same ▸ accepted
  have number (found : ∃ n, value = .integer n ∧ v = .integer n) :
      extractValue f v.toJson = .ok v := by
    obtain ⟨n, rfl, rfl⟩ := found
    exact accepted
  unfold extractValue at accepted
  cases kind : f.datatype <;> simp only [kind] at accepted
  case string =>
    obtain ⟨s, rfl, rfl⟩ := text_accepted accepted
    exact kept rfl
  case byteString =>
    obtain ⟨bytes, rfl, rfl⟩ := bytes_accepted accepted
    exact kept rfl
  case json =>
    split at accepted
    · cases accepted
      exact kept rfl
    · cases accepted
  case boolean =>
    split at accepted
    · cases accepted
      exact kept rfl
    · cases accepted
  case float64 =>
    simp only [extractValue, kind]
    exact double_again accepted
  case float32 =>
    simp only [extractValue, kind]
    exact single_again accepted
  case bit => exact number (bit_accepted accepted)
  case enum => exact number (index_accepted accepted)
  case set =>
    simp only [extractValue, kind]
    exact member_again accepted
  all_goals exact number (integer_accepted accepted)

theorem extract_again {typed : TypedValue} (extracted : f.extract value = .ok typed) :
    f.extract typed.value.toJson = .ok typed := by
  obtain ⟨consistent, v, accepted, rfl⟩ := (extract_ok_iff f value typed).mp extracted
  exact (extract_ok_iff f _ _).mpr ⟨consistent, v, extract_value_again accepted, rfl⟩

/-! Records -/

section Records

variable {isInput : Bool} {stored : String → Option Json} {fields : List Field}
  {found : List (String × TypedValue)}

theorem collects_again (collects : Collects isInput stored fields found)
    (again : String → Option Json)
    (kept : ∀ entry ∈ found, again entry.1 = some entry.2.value.toJson)
    (absent : ∀ title, stored title = none → again title = none) :
    Collects isInput again fields found := by
  induction collects with
  | done => exact .done
  | takes _ extracted _ ih =>
      have first := kept _ List.mem_cons_self
      have others := ih fun entry member => kept entry (List.mem_cons_of_mem _ member)
      exact .takes first (extract_again extracted) others
  | leaves missing excuse _ ih => exact .leaves (absent _ missing) excuse (ih kept)

theorem collects_written (collects : Collects isInput stored fields found)
    (distinct : (fields.map Field.title).Nodup) :
    Collects isInput (fun title : String => Json.member? title (written found)) fields found := by
  have titles := collects_titles collects
  apply collects_again collects
  · apply member_written
    rw [titles]
    exact distinct.filter _
  · intro title missing
    apply Association.lookup_absent
    rw [written_titles, titles]
    simp [missing]

end Records

/-- A record that was accepted is accepted again in its serialized form, as the same record. -/
theorem validate_serialized (t : Table) (payload : Json) (isInput : Bool)
    (found : List (String × TypedValue)) (accepted : t.validate payload isInput = .ok found) :
    t.validate (serialize found) isInput = .ok found := by
  rw [Table.validate] at accepted
  cases parts : fragments? payload with
  | none =>
      rw [parts] at accepted
      cases accepted
  | some fragments =>
      rw [parts] at accepted
      have collects := (validate_fields_ok_iff t.fields.entries found).mp accepted
      have again := collects_written collects t.fields.distinct
      have stored : (fun title : String => Json.member? title (written found)) =
          (valueIn? · [.object (written found)]) := by
        funext title
        exact (value_in_object title (written found)).symm
      rw [stored] at again
      exact (validate_fields_ok_iff t.fields.entries found).mpr again

end Names

open scoped Pattern.Unnamed

/-- A column of each kind whose values are changed, and one that is left out. -/
def reportTable : Table where
  title := "reports"
  fields := .ofList [
    { title := "colour", datatype := .set, members := some (.ofList ["red", "green"]) },
    { title := "share", datatype := .float32, characters := some 3 },
    { title := "total", datatype := .float64 },
    { title := "note", datatype := .json }]

def report : List (String × TypedValue) := [
  ("colour", ⟨.set, .text "green"⟩),
  ("share", ⟨.float32, .float (.finite false 7205759511166976 (-56))⟩),
  ("total", ⟨.float64, .float (.finite false 6755399441055744 (-51))⟩)]

theorem validate_serialized_report :
    reportTable.validate (.object [("colour", .string "GREEN"),
      ("share", .float (.finite false 7205759403792794 (-56))), ("total", .integer 3)]) true =
        .ok report ∧
    reportTable.validate (serialize report) true = .ok report := by
  have accepted : reportTable.validate (.object [("colour", .string "GREEN"),
      ("share", .float (.finite false 7205759403792794 (-56))), ("total", .integer 3)]) true =
        .ok report := by rfl
  exact ⟨accepted, validate_serialized reportTable _ true report accepted⟩

end SchemaCompiler.Validation
