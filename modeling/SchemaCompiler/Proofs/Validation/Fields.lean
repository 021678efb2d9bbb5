import SchemaCompiler.Proofs.Outcome
import SchemaCompiler.Validation.Payload

/-!
What validation makes of the fields of a table, told by the values that are stored for their
titles. It collects a value for every field that has one, in order, and fails for the first field
that cannot take its value or is left without one.
-/

namespace SchemaCompiler.Validation

open Outcome

theorem excused_false_iff (isInput : Bool) (f : Field) :
    excused isInput f = false ↔
      f.required = true ∧ ¬ (isInput = true ∧ f.generated = true) := by
  simp [excused]

variable [Pattern.CharacterNames]

/-- The fields' values, taken one after the other from what is stored. -/
inductive Collects (isInput : Bool) (stored : String → Option Json) :
    List Field → List (String × TypedValue) → Prop
  | done : Collects isInput stored [] []
  | takes {f : Field} {rest : List Field} {value : Json} {typed : TypedValue}
      {others : List (String × TypedValue)} (found : stored f.title = some value)
      (extracted : f.extract value = .ok typed) (later : Collects isInput stored rest others) :
      Collects isInput stored (f :: rest) ((f.title, typed) :: others)
  | leaves {f : Field} {rest : List Field} {others : List (String × TypedValue)}
      (absent : stored f.title = none) (excuse : excused isInput f = true)
      (later : Collects isInput stored rest others) : Collects isInput stored (f :: rest) others

/-- Why a field fails: its value is refused, or there is none and it has to be given. -/
inductive Fails (table : String) (isInput : Bool) (stored : String → Option Json) (f : Field) :
    Failure → Prop
  | refused {value : Json} {e : Failure} (found : stored f.title = some value)
      (failed : f.extract value = .error e) : Fails table isInput stored f e
  | missing (absent : stored f.title = none) (needed : f.required = true)
      (expected : ¬ (isInput = true ∧ f.generated = true)) :
      Fails table isInput stored f (.invalid (.missing f.title f.datatype table))

section Run

variable {table : String} {isInput : Bool} {stored : String → Option Json} {fragments : List Json}

/-- A field that takes its value passes it on in front of the others. -/
theorem validate_taken {f : Field} {value : Json} {typed : TypedValue}
    (found : valueIn? f.title fragments = some value) (extracted : f.extract value = .ok typed)
    (rest : List Field) :
    validateFields table isInput fragments (f :: rest) =
      (validateFields table isInput fragments rest).map ((f.title, typed) :: ·) := by
  simp only [validateFields, found, extracted, bind, Except.bind]
  cases validateFields table isInput fragments rest with
  | ok others => rfl
  | error e => rfl

theorem validate_left {f : Field} (absent : valueIn? f.title fragments = none)
    (excuse : excused isInput f = true) (rest : List Field) :
    validateFields table isInput fragments (f :: rest) =
      validateFields table isInput fragments rest := by
  simp [validateFields, absent, excuse]

theorem validate_failed {f : Field} {e : Failure}
    (fails : Fails table isInput (valueIn? · fragments) f e) (rest : List Field) :
    validateFields table isInput fragments (f :: rest) = .error e := by
  cases fails with
  | refused found failed => simp [validateFields, found, failed, bind, Except.bind]
  | missing absent needed expected =>
      have due := (excused_false_iff isInput f).mpr ⟨needed, expected⟩
      simp [validateFields, absent, due]

/-- A field takes its value, is left out, or fails. -/
theorem field_cases (table : String) (isInput : Bool) (stored : String → Option Json) (f : Field) :
    (∃ value typed, stored f.title = some value ∧ f.extract value = .ok typed) ∨
      (stored f.title = none ∧ excused isInput f = true) ∨
      ∃ e, Fails table isInput stored f e := by
  cases found : stored f.title with
  | some value =>
      cases extracted : f.extract value with
      | ok typed => exact Or.inl ⟨value, typed, rfl, extracted⟩
      | error e => exact Or.inr (Or.inr ⟨e, .refused found extracted⟩)
  | none =>
      cases excuse : excused isInput f with
      | true => exact Or.inr (Or.inl ⟨rfl, rfl⟩)
      | false =>
          obtain ⟨needed, expected⟩ := (excused_false_iff isInput f).mp excuse
          exact Or.inr (Or.inr ⟨_, .missing found needed expected⟩)

theorem validate_fields_ok_iff (fields : List Field) (found : List (String × TypedValue)) :
    validateFields table isInput fragments fields = .ok found ↔
      Collects isInput (valueIn? · fragments) fields found := by
  constructor
  · intro passed
    induction fields generalizing found with
    | nil =>
        cases passed
        exact .done
    | cons f rest ih =>
        rcases field_cases table isInput (valueIn? · fragments) f with
          ⟨value, typed, present, extracted⟩ | ⟨absent, excuse⟩ | ⟨e, fails⟩
        · rw [validate_taken present extracted, map_ok_iff] at passed
          obtain ⟨others, later, rfl⟩ := passed
          exact .takes present extracted (ih others later)
        · rw [validate_left absent excuse] at passed
          exact .leaves absent excuse (ih found passed)
        · rw [validate_failed fails] at passed
          cases passed
  · intro collects
    induction collects with
    | done => rfl
    | takes present extracted _ ih => rw [validate_taken present extracted, ih]; rfl
    | leaves absent excuse _ ih => rw [validate_left absent excuse, ih]

/-- Some field fails, and none in front of it does. -/
def FirstFails (table : String) (isInput : Bool) (stored : String → Option Json)
    (fields : List Field) (e : Failure) : Prop :=
  ∃ before f after, fields = before ++ f :: after ∧
    (∀ g ∈ before, ∀ other, ¬ Fails table isInput stored g other) ∧
    Fails table isInput stored f e

/-- What a field in front that does not fail makes of a failure. -/
theorem validate_passed {f : Field} (passes : ∀ e, ¬ Fails table isInput (valueIn? · fragments) f e)
    (rest : List Field) (e : Failure) :
    validateFields table isInput fragments (f :: rest) = .error e ↔
      validateFields table isInput fragments rest = .error e := by
  rcases field_cases table isInput (valueIn? · fragments) f with
    ⟨value, typed, present, extracted⟩ | ⟨absent, excuse⟩ | ⟨other, fails⟩
  · rw [validate_taken present extracted]
    cases validateFields table isInput fragments rest with
    | ok others => simp [Except.map]
    | error other => simp [Except.map]
  · rw [validate_left absent excuse]
  · exact absurd fails (passes other)

theorem validate_fields_error_iff (fields : List Field) (e : Failure) :
    validateFields table isInput fragments fields = .error e ↔
      FirstFails table isInput (valueIn? · fragments) fields e := by
  constructor
  · intro failed
    induction fields with
    | nil => cases failed
    | cons f rest ih =>
        by_cases fails : ∃ other, Fails table isInput (valueIn? · fragments) f other
        · obtain ⟨other, fails⟩ := fails
          rw [validate_failed fails] at failed
          cases failed
          exact ⟨[], f, rest, rfl, by simp, fails⟩
        · have passes := not_exists.mp fails
          obtain ⟨before, g, after, rfl, first, failing⟩ :=
            ih ((validate_passed passes rest e).mp failed)
          exact ⟨f :: before, g, after, rfl, by simpa using ⟨passes, first⟩, failing⟩
  · rintro ⟨before, f, after, rfl, first, fails⟩
    induction before with
    | nil => exact validate_failed fails after
    | cons g before ih =>
        rw [List.cons_append, validate_passed (first g (by simp))]
        exact ih fun h member => first h (List.mem_cons_of_mem g member)

/-! What was collected -/

variable {fields : List Field} {found : List (String × TypedValue)}

theorem collects_titles (collects : Collects isInput stored fields found) :
    found.map Prod.fst = (fields.map Field.title).filter fun title => (stored title).isSome := by
  induction collects with
  | done => rfl
  | takes present _ _ ih => simp [present, ih]
  | leaves absent _ _ ih => simp [absent, ih]

theorem collects_values (collects : Collects isInput stored fields found) :
    ∀ entry ∈ found, ∃ f ∈ fields, ∃ value, f.title = entry.1 ∧
      stored f.title = some value ∧ f.extract value = .ok entry.2 := by
  induction collects with
  | done => simp
  | @takes f rest value typed others present extracted _ ih =>
      intro entry member
      rcases List.mem_cons.mp member with rfl | later
      · exact ⟨f, by simp, value, rfl, present, extracted⟩
      · obtain ⟨g, among, rest⟩ := ih entry later
        exact ⟨g, List.mem_cons_of_mem f among, rest⟩
  | @leaves f rest others _ _ _ ih =>
      intro entry member
      obtain ⟨g, among, rest⟩ := ih entry member
      exact ⟨g, List.mem_cons_of_mem f among, rest⟩

end Run

end SchemaCompiler.Validation
