import SchemaCompiler.Proofs.Validation.Accepted
import SchemaCompiler.TypeScript

/-!
Types of properties. Enums are registered as fields need them and never taken back, so that a type
is good for the file as a whole, and the values that a field accepts have the shape of its type.
-/

namespace SchemaCompiler.TypeScript

open Outcome Validation

/-! Shapes -/

def IsNumber : Json → Prop
  | .integer _ | .float _ => True
  | _ => False

/-- What a type says of a JSON value in a file with the given enums, whose members are numbers. -/
def HasShape (enums : List String) (type : String) (value : Json) : Prop :=
  match type with
  | "string" => ∃ s, value = .string s
  | "number" => IsNumber value
  | "number[]" => ∃ items, value = .array items ∧ ∀ item ∈ items, IsNumber item
  | "boolean" => ∃ b, value = .bool b
  | "any" => True
  | _ => type ∈ enums ∧ IsNumber value

/-- Enums are named so that no type of the language is taken for one. -/
def Named (registry : Registry) : Prop :=
  ∀ entry ∈ registry, ∃ stem, entry.2 = stem ++ "Enum"

/-- The type that a field has once all enums are registered. -/
inductive Typed (registry : Registry) (f : Field) : String → Prop
  | enum {type : String} {labels : List String} (isEnum : f.datatype = .enum)
      (listed : f.labels = some labels) (known : (labels, type) ∈ registry) : Typed registry f type
  | plain (other : f.datatype ≠ .enum) : Typed registry f (typeName f.datatype)

theorem typed_later {registry later : Registry} {f : Field} {type : String}
    (typed : Typed registry f type) (more : registry <+: later) : Typed later f type := by
  cases typed with
  | enum isEnum listed known => exact .enum isEnum listed (more.subset known)
  | plain other => exact .plain other

theorem enum_name_ends {table field name : String} (made : enumName table field = .ok name) :
    ∃ stem, name = stem ++ "Enum" := by
  simp only [enumName, bind_ok_iff] at made
  obtain ⟨front, _, back, _, same⟩ := made
  cases same
  exact ⟨front ++ back, rfl⟩

/-- A field adds an enum when no earlier one has its labels, and nothing otherwise. -/
theorem type_of_cases {table : String} {registry later : Registry} {f : Field} {type : String}
    (typed : typeOf table registry f = .ok (type, later)) :
    (f.datatype = .enum ∧
      ∃ labels, f.labels = some labels ∧ registry.lookup labels = some type ∧ later = registry) ∨
    (f.datatype = .enum ∧ enumName table f.title = .ok type ∧
      ∃ labels, f.labels = some labels ∧ registry.lookup labels = none ∧
        later = registry ++ [(labels, type)]) ∨
    (f.datatype ≠ .enum ∧ type = typeName f.datatype ∧ later = registry) := by
  rw [typeOf] at typed
  split at typed
  · next isEnum =>
    have isEnum := eq_of_beq isEnum
    split at typed
    · cases typed
    · next labels listed =>
      obtain ⟨name, made, found⟩ := (bind_ok_iff _ _ _).mp typed
      split at found
      · next earlier known =>
        cases found
        exact Or.inl ⟨isEnum, labels, listed, known, rfl⟩
      · next unknown =>
        cases found
        exact Or.inr (Or.inl ⟨isEnum, made, labels, listed, unknown, rfl⟩)
  · next other =>
    cases typed
    exact Or.inr (Or.inr ⟨by simpa using other, rfl, rfl⟩)

theorem type_of_step {table : String} {registry later : Registry} {f : Field} {type : String}
    (typed : typeOf table registry f = .ok (type, later)) :
    registry <+: later ∧ (Named registry → Named later) ∧ Typed later f type := by
  rcases type_of_cases typed with
    ⟨isEnum, labels, listed, known, rfl⟩ | ⟨isEnum, made, labels, listed, _, rfl⟩ |
    ⟨other, rfl, rfl⟩
  · obtain ⟨front, back, split, _⟩ := List.lookup_eq_some_iff.mp known
    have among : (labels, type) ∈ later := by simp [split]
    exact ⟨List.prefix_refl later, id, .enum isEnum listed among⟩
  · refine ⟨List.prefix_append registry _, ?_, .enum isEnum listed (by simp)⟩
    intro named entry member
    rcases List.mem_append.mp member with earlier | last
    · exact named entry earlier
    · rw [List.mem_singleton.mp last]
      exact enum_name_ends made
  · exact ⟨List.prefix_refl later, id, .plain other⟩

theorem properties_run {table : String} {registry last : Registry} {fields : List Field}
    {found : List Property} (ran : properties table registry fields = .ok (found, last)) :
    registry <+: last ∧ (Named registry → Named last) ∧
      List.Forall₂ (fun f p => ∃ type, p = property f type ∧ Typed last f type) fields found := by
  induction fields generalizing registry found with
  | nil =>
      cases ran
      exact ⟨List.prefix_refl last, id, .nil⟩
  | cons f rest ih =>
      simp only [properties, bind_ok_iff] at ran
      obtain ⟨⟨type, next⟩, typed, ⟨others, final⟩, later, same⟩ := ran
      cases same
      -- The field in front is typed in a registry that the others have still to extend.
      obtain ⟨grown, named, here⟩ := type_of_step typed
      obtain ⟨grownLater, namedLater, there⟩ := ih later
      refine ⟨grown.trans grownLater, fun start => namedLater (named start), ?_⟩
      exact .cons ⟨type, rfl, typed_later here grownLater⟩ there

end SchemaCompiler.TypeScript
