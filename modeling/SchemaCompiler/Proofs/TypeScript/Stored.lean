import SchemaCompiler.Proofs.Outcome
import SchemaCompiler.Proofs.Schema.Stored
import SchemaCompiler.TypeScript.Stored

/-!
Types of tables as snapshots hold them. A table of the schema has the same types in this form, and
fails for its design only; any other table has types only if its title is a string.
-/

namespace SchemaCompiler.Stored

open Outcome
open TypeScript (EnumDeclaration Module Property)

/-! Titles -/

theorem name_of_ok_iff (scalar : Scalar) (name : WideText) :
    nameOf scalar = .ok name ↔ scalar = .text name := by
  cases scalar <;> simp [nameOf]

theorem module_of_title {t : Table} {m : Module} (made : moduleOf t = .ok m) :
    ∃ name, t.title = .text name := by
  simp only [moduleOf, bind_ok_iff, name_of_ok_iff] at made
  obtain ⟨_, _, _, _, name, titled, _⟩ := made
  exact ⟨name, titled⟩

theorem render_table_title {t : Table} {text : String} (rendered : renderTable t = .ok text) :
    ∃ title : String, t.title = title := by
  simp only [renderTable, bind_ok_iff] at rendered
  obtain ⟨m, made, whole⟩ := rendered
  obtain ⟨name, titled⟩ := module_of_title made
  cases name with
  | plain title => exact ⟨title, titled⟩
  | broken title =>
      rw [titled] at whole
      cases whole

theorem properties_titled {table : Scalar} {registry later : Registry} {fields : List Field}
    {found : List Property} (ran : properties table registry fields = .ok (found, later)) :
    ∀ f ∈ fields, ∃ name, f.title = .text name := by
  induction fields generalizing registry found with
  | nil => simp
  | cons f rest ih =>
      simp only [properties, property, bind_ok_iff, name_of_ok_iff] at ran
      obtain ⟨⟨type, next⟩, _, _, ⟨name, titled, _⟩, ⟨others, last⟩, behind, same⟩ := ran
      cases same
      exact List.forall_mem_cons.mpr ⟨⟨name, titled⟩, ih behind⟩

/-- What has types has text for the titles of its fields. -/
theorem render_table_fields {t : Table} {text : String} (rendered : renderTable t = .ok text) :
    ∀ f ∈ t.fields.entries, ∃ name, f.title = .text name := by
  simp only [renderTable, moduleOf, bind_ok_iff] at rendered
  obtain ⟨_, ⟨⟨found, registry⟩, ran, _⟩, _⟩ := rendered
  exact properties_titled ran

/-! Flags that are null -/

theorem settled_flag_true (flag : Json) : (settledFlag flag).isTrue = flag.isTrue := by
  cases flag <;> rfl

theorem properties_settled (table : Scalar) (registry : Registry) (fields : List Field) :
    properties table registry (fields.map Field.settled) = properties table registry fields := by
  induction fields generalizing registry with
  | nil => rfl
  | cons f rest ih =>
      have typed (known : Registry) : typeOf table known f.settled = typeOf table known f := rfl
      have made (type : String) : property f.settled type = property f type := by
        simp only [property, Field.settled, settled_flag_true]
      simp only [List.map_cons, properties, typed, made, ih]

/-- Types do not tell a flag that is null from one that is false. -/
theorem render_table_settled (t : Table) : renderTable t.settled = renderTable t := by
  simp only [renderTable, moduleOf, table_settled_entries, properties_settled]
  rfl

/-! Tables of the schema -/

theorem title_shown (title : String) : (title : Scalar).shown = title := by
  simp [Scalar.shown, Scalar.toJson, Json.shown]

section Design

variable {α β : Type}

theorem of_design_ok (a : α) : ofDesign (.ok a) = .ok a := rfl

theorem of_design_bind (x : Except InternalError α) (next : α → Except InternalError β) :
    ofDesign (x >>= next) = ofDesign x >>= fun a => ofDesign (next a) := by
  cases x <;> rfl

end Design

/-- Labels as they are held. -/
def textsOf (labels : List String) : List Scalar := labels.map fun (label : String) => .text label

def ofRegistry (registry : TypeScript.Registry) : Registry :=
  registry.map fun entry => (textsOf entry.1, entry.2)

theorem texts_key_iff (labels other : List String) :
    (textsOf labels).map Scalar.key = (textsOf other).map Scalar.key ↔ labels = other := by
  have injective : Function.Injective fun label : String => Scalar.key label :=
    fun _ _ => text_key_injective
  rw [textsOf, textsOf, List.map_map, List.map_map]
  exact (List.map_injective_iff.mpr injective).eq_iff

theorem registered_of (registry : TypeScript.Registry) (labels : List String) :
    registered? (ofRegistry registry) (textsOf labels) = registry.lookup labels := by
  induction registry with
  | nil => rfl
  | cons entry rest ih =>
      obtain ⟨known, name⟩ := entry
      rw [ofRegistry, List.map_cons, registered?, List.find?_cons, List.lookup_cons]
      by_cases same : labels = known
      · subst same
        simp
      · have apart :
            ((textsOf known).map Scalar.key == (textsOf labels).map Scalar.key) = false := by
          rw [beq_eq_false_iff_ne, Ne, texts_key_iff]
          exact Ne.symm same
        have missed : (labels == known) = false := beq_eq_false_iff_ne.mpr same
        simp only [apart, missed]
        exact ih

theorem labels_of (labels : List String) :
    (labels.map fun (label : String) => Json.string label).mapM labelOf = .ok (textsOf labels) := by
  induction labels with
  | nil => rfl
  | cons label rest ih =>
      rw [List.map_cons, List.mapM_cons, ih]
      rfl

theorem enum_name_of (table field : String) :
    enumName table field = ofDesign (TypeScript.enumName table field) := by
  rw [enumName, TypeScript.enumName, of_design_bind]
  simp only [of_design_bind]
  rfl

theorem type_of (table : String) (registry : TypeScript.Registry) (f : SchemaCompiler.Field) :
    typeOf table (ofRegistry registry) (ofField f) =
      ofDesign ((TypeScript.typeOf table registry f).map fun found =>
        (found.1, ofRegistry found.2)) := by
  have titled : (ofField f).title = f.title := rfl
  have kind : (ofField f).datatype = f.datatype := rfl
  rw [typeOf, TypeScript.typeOf, kind]
  split
  · cases listed : f.labels with
    | none =>
        have none : (ofField f).labels = none := by simp [ofField, listed]
        simp only [none, titled, title_shown]
        rfl
    | some labels =>
        have held : (ofField f).labels =
            some (labels.map fun (label : String) => .string label) := by
          simp [ofField, listed]
        simp only [held, titled, enum_name_of, labels_of]
        -- A name is made even where an earlier one will be used, so it can fail there, too.
        cases TypeScript.enumName table f.title with
        | error e => rfl
        | ok name =>
            simp only [of_design_ok, bind, Except.bind, registered_of]
            cases registry.lookup labels with
            | some earlier => rfl
            | none => simp [ofRegistry, pure, Except.pure, Except.map, of_design_ok]
  · rfl

theorem property_of (f : SchemaCompiler.Field) (type : String) :
    property (ofField f) type = .ok (TypeScript.property f type) := rfl

theorem properties_of (table : String) (registry : TypeScript.Registry)
    (fields : List SchemaCompiler.Field) :
    properties table (ofRegistry registry) (fields.map ofField) =
      ofDesign ((TypeScript.properties table registry fields).map fun found =>
        (found.1, ofRegistry found.2)) := by
  induction fields generalizing registry with
  | nil => rfl
  | cons f rest ih =>
      rw [List.map_cons, properties, TypeScript.properties, type_of]
      cases TypeScript.typeOf table registry f with
      | error e => rfl
      | ok found =>
          obtain ⟨type, later⟩ := found
          -- The other fields go on with the registry that this one leaves.
          have next := ih later
          simp only [Except.map, of_design_ok, bind, Except.bind, property_of, next]
          cases TypeScript.properties table later rest with
          | error e => rfl
          | ok others => rfl

theorem add_members_of (enum : String) (before labels : List String) :
    addMembers enum before (textsOf labels) =
      ofDesign (TypeScript.addMembers enum before labels) := by
  induction labels generalizing before with
  | nil => rfl
  | cons label rest ih =>
      have named : nameOf (Scalar.text label) = .ok (.plain label) := rfl
      have behind := ih (before ++ [TypeScript.memberName label])
      rw [textsOf, List.map_cons, addMembers, TypeScript.addMembers, named]
      simp only [bind, Except.bind]
      split
      · rfl
      · exact behind

theorem declarations_of (registry : TypeScript.Registry) :
    (ofRegistry registry).mapM declaration =
      ofDesign (registry.mapM TypeScript.declaration) := by
  induction registry with
  | nil => rfl
  | cons entry rest ih =>
      rw [ofRegistry, List.map_cons, List.mapM_cons, List.mapM_cons, of_design_bind]
      rw [ofRegistry] at ih
      simp only [ih, declaration, TypeScript.declaration, TypeScript.enumMembers, add_members_of,
        of_design_bind]
      cases TypeScript.addMembers entry.2 [] entry.1 with
      | error e => rfl
      | ok members =>
          cases rest.mapM TypeScript.declaration with
          | error e => rfl
          | ok others => rfl

theorem module_of (t : SchemaCompiler.Table) :
    moduleOf (ofTable t) = ofDesign (TypeScript.moduleOf t) := by
  have titled : (ofTable t).title = t.title := rfl
  have run := properties_of t.title [] t.fields.entries
  rw [show ofRegistry [] = [] from rfl] at run
  rw [moduleOf, TypeScript.moduleOf, of_table_entries, titled, run]
  cases TypeScript.properties t.title [] t.fields.entries with
  | error e => rfl
  | ok found =>
      simp only [Except.map, of_design_ok, bind, Except.bind, declarations_of, title_shown]
      cases found.2.mapM TypeScript.declaration with
      | error e => rfl
      | ok enums =>
          have named : nameOf (Scalar.text t.title) = .ok (.plain t.title) := rfl
          simp only [of_design_ok, named]
          cases Naming.pascalCase t.title <;> rfl

/-- The types of a table of the schema are the same in either form. -/
theorem render_table_of (t : SchemaCompiler.Table) :
    renderTable (ofTable t) = ofDesign (TypeScript.renderTable t) := by
  rw [renderTable, module_of, TypeScript.renderTable]
  cases TypeScript.moduleOf t with
  | error e => rfl
  | ok m => rfl

end SchemaCompiler.Stored
