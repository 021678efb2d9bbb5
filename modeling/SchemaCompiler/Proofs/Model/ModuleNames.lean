import SchemaCompiler.Proofs.Model.Imports
import SchemaCompiler.Proofs.Model.SourceLiterals
import SchemaCompiler.Proofs.Model.Statement
import SchemaCompiler.Proofs.Naming

/-!
The names that a source binds: those that it imports, the base class, one for each table, and in a
class one for each column. Names of tables and columns are made from titles, and nothing keeps
them apart from one another and from the names that are there already; so it is up to the titles.
-/

namespace SchemaCompiler.Model

open Naming Text

/-! Names that are imported -/

/-- The names that can be imported, each with its module. -/
def offered : List (String × String) :=
  [("__future__", "annotations"), ("sqlalchemy.orm", "DeclarativeBase"),
    ("sqlalchemy.orm", "Mapped"), ("sqlalchemy.orm", "mapped_column"), ("typing", "Any"),
    ("typing", "Literal")] ++
  ["Column", "Table", "ForeignKey", "String", "LargeBinary", "JSON", "BigInteger", "Integer",
    "SmallInteger", "Double", "Float", "Boolean", "Enum"].map ("sqlalchemy", ·)

theorem offered_usable : ∀ pair ∈ offered, Usable pair.2 ∧ pair.2 ≠ baseClass := by decide

theorem offered_listable : ∀ pair ∈ offered, Listable pair.1 ∧ Listable pair.2 := by decide

theorem common_needs_offered : ∀ pair ∈ commonNeeds, pair ∈ offered := by decide

theorem class_needs_offered (c : WrittenColumn) : ∀ pair ∈ c.classNeeds, pair ∈ offered := by
  obtain ⟨_, type, _, _, _, _, foreign⟩ := c
  cases foreign <;> cases type <;>
    simp [WrittenColumn.classNeeds, WrittenColumn.valueNeeds, offered, ColumnType.className,
      ColumnType.valueType, ColumnType.builtin]

theorem plain_needs_offered (c : WrittenColumn) : ∀ pair ∈ c.plainNeeds, pair ∈ offered := by
  obtain ⟨_, type, _, _, _, _, _⟩ := c
  cases type <;> simp [WrittenColumn.plainNeeds, offered, ColumnType.className]

theorem needs_offered (d : Definition) : ∀ pair ∈ d.needs, pair ∈ offered := by
  intro pair member
  rw [Definition.needs] at member
  split at member
  · obtain ⟨c, _, needed⟩ := List.mem_flatMap.mp member
    exact class_needs_offered c pair needed
  · rcases List.mem_append.mp member with needed | table
    · obtain ⟨c, _, needed⟩ := List.mem_flatMap.mp needed
      exact plain_needs_offered c pair needed
    · rw [List.mem_singleton.mp table]
      decide

section Imported

variable (ds : List Definition)

theorem mem_source_pairs {pair : String × String} :
    pair ∈ (sourceImports ds).pairs ↔ pair ∈ commonNeeds ++ ds.flatMap Definition.needs := by
  rw [source_imports_eq, Imports.mem_pairs_add_all]
  simp [Imports.pairs]

theorem source_needs_offered :
    ∀ pair ∈ commonNeeds ++ ds.flatMap Definition.needs, pair ∈ offered := by
  refine List.forall_mem_append.mpr ⟨common_needs_offered, ?_⟩
  intro pair member
  obtain ⟨d, _, needed⟩ := List.mem_flatMap.mp member
  exact needs_offered d pair needed

theorem source_pairs_offered : ∀ pair ∈ (sourceImports ds).pairs, pair ∈ offered :=
  fun pair member => source_needs_offered ds pair ((mem_source_pairs ds).mp member)

theorem imported_names_distinct : (sourceImports ds).names.Nodup := by
  refine Imports.names_distinct ?_ (source_pairs_offered ds) (by decide)
  have none : (Imports.modules []).Nodup := List.nodup_nil
  rw [source_imports_eq]
  exact Imports.modules_distinct none _

theorem imported_names_usable :
    ∀ name ∈ (sourceImports ds).names, Usable name ∧ name ≠ baseClass := by
  intro name member
  rw [Imports.names_eq] at member
  obtain ⟨pair, among, rfl⟩ := List.mem_map.mp member
  exact offered_usable pair (source_pairs_offered ds pair among)

theorem source_line_imports : ∀ entry ∈ sourceImports ds,
    lineImports (importLine entry).toList = entry.2.toList.map String.toList := by
  intro entry member
  refine line_imports ?_ ?_
  · have module : entry.1 ∈ (sourceImports ds).modules := List.mem_map.mpr ⟨entry, member, rfl⟩
    rw [source_imports_eq] at module
    rcases Imports.mem_modules_add_all module with none | needed
    · cases none
    · obtain ⟨pair, among, same⟩ := List.mem_map.mp needed
      rw [← same]
      exact (offered_listable pair (source_needs_offered ds pair among)).1
  · intro name among
    have listed : (entry.1, name) ∈ (sourceImports ds).pairs :=
      List.mem_flatMap.mpr ⟨entry, member, List.mem_map.mpr ⟨name, among, rfl⟩⟩
    exact (offered_listable _ (source_pairs_offered ds _ listed)).2

end Imported

/-! What the tables have to do with it -/

/-- What a field makes a class need. -/
def classFieldImports (db : Database) (f : Field) : List String :=
  match ColumnType.ofField f with
  | .error _ => []
  | .ok type =>
    (if type.valueType.module == "builtins" then [] else [type.valueType.name]) ++
      type.className :: (if (foreignTarget db f).isSome then ["ForeignKey"] else []) ++
      ["Mapped", "mapped_column"]

def plainFieldImports (f : Field) : List String :=
  match ColumnType.ofField f with
  | .error _ => []
  | .ok type => ["Column", type.className]

def tableImports (db : Database) (t : Table) : List String :=
  if t.hasPrimary then t.fields.entries.flatMap (classFieldImports db)
  else t.fields.entries.flatMap plainFieldImports ++ ["Table"]

/-- The names that the source of a database imports. -/
def databaseImports (db : Database) : List String :=
  ["annotations", "DeclarativeBase"] ++ db.tables.entries.flatMap (tableImports db)

/-- The names of the columns in a class. -/
def Definition.attributes (d : Definition) : List String :=
  match d.form with
  | .mapped => d.columns.map fun c => snakeCase c.title
  | .plain => []

def tableAttributes (t : Table) : List String :=
  if t.hasPrimary then t.fields.entries.map fun f => snakeCase f.title else []

section Tables

variable {db : Database} {t : Table} {f : Field} {d : Definition} {ds : List Definition}
variable {w : WrittenColumn}

theorem class_field_imports (written : WrittenColumn.ofClass db f = .ok w) :
    w.classNeeds.map Prod.snd = classFieldImports db f := by
  obtain ⟨type, typed, same⟩ := (Outcome.bind_ok_iff _ _ _).mp written
  cases same
  rw [classFieldImports, typed, WrittenColumn.classNeeds, WrittenColumn.valueNeeds]
  simp only [List.map_append, List.map_cons, apply_ite (List.map Prod.snd), List.map_nil]

theorem class_title (written : WrittenColumn.ofClass db f = .ok w) : w.title = f.title := by
  obtain ⟨type, _, same⟩ := (Outcome.bind_ok_iff _ _ _).mp written
  cases same
  rfl

theorem plain_field_imports (written : WrittenColumn.ofPlain f = .ok w) :
    w.plainNeeds.map Prod.snd = plainFieldImports f := by
  obtain ⟨type, typed, same⟩ := (Outcome.bind_ok_iff _ _ _).mp written
  cases same
  rw [plainFieldImports, typed]
  rfl

theorem map_mapM {ε α β γ : Type} {write : α → Except ε β} {inner : β → γ} {outer : α → γ}
    (each : ∀ a b, write a = .ok b → inner b = outer a) {items : List α} {results : List β}
    (passed : items.mapM write = .ok results) : results.map inner = items.map outer := by
  rw [List.map_eq_flatMap, List.map_eq_flatMap]
  exact flatMap_mapM (fun a b wrote => by rw [each a b wrote]) passed

/-- What a definition has from its table. -/
theorem of_table_ok (written : Definition.ofTable db t = .ok d) :
    pascalCase t.title = .ok d.name ∧ d.needs.map Prod.snd = tableImports db t ∧
      d.attributes = tableAttributes t := by
  obtain ⟨name, named, rest⟩ := (Outcome.bind_ok_iff _ _ _).mp written
  rw [tableImports, tableAttributes]
  split at rest
  · next keyed =>
    obtain ⟨ws, passed, same⟩ := (Outcome.bind_ok_iff _ _ _).mp rest
    cases same
    rw [if_pos keyed, if_pos keyed]
    refine ⟨named, ?_, ?_⟩
    · rw [Definition.needs, List.map_flatMap]
      exact flatMap_mapM (fun _ _ => class_field_imports) passed
    · exact map_mapM (fun _ _ wrote => congrArg snakeCase (class_title wrote)) passed
  · next keyless =>
    obtain ⟨ws, passed, same⟩ := (Outcome.bind_ok_iff _ _ _).mp rest
    cases same
    rw [if_neg keyless, if_neg keyless]
    refine ⟨named, ?_, rfl⟩
    rw [Definition.needs, List.map_append, List.map_flatMap]
    exact congrArg (· ++ _) (flatMap_mapM (fun _ _ => plain_field_imports) passed)

theorem source_names_iff (defined : definitions db = .ok ds) (name : String) :
    name ∈ (sourceImports ds).names ↔ name ∈ databaseImports db := by
  have whole : (commonNeeds ++ ds.flatMap Definition.needs).map Prod.snd = databaseImports db := by
    rw [List.map_append, List.map_flatMap,
      flatMap_mapM (fun _ _ written => (of_table_ok written).2.1) defined]
    rfl
  rw [← whole, Imports.names_eq, List.mem_map, List.mem_map]
  simp only [mem_source_pairs]

theorem definition_names (defined : definitions db = .ok ds) :
    (ds.map Definition.name).map Except.ok =
      db.tables.entries.map fun t => pascalCase t.title := by
  rw [List.map_map]
  exact map_mapM (fun _ _ written => (of_table_ok written).1.symm) defined

theorem definition_attributes (defined : definitions db = .ok ds) :
    ds.map Definition.attributes = db.tables.entries.map tableAttributes :=
  map_mapM (fun _ _ written => (of_table_ok written).2.2) defined

end Tables

/-! Names that clash -/

/-- The names of a module, in the order in which they are bound. -/
def boundNames (ds : List Definition) : List String :=
  (sourceImports ds).names ++ baseClass :: ds.map Definition.name

structure ClashFree (ds : List Definition) : Prop where
  usable : ∀ name ∈ boundNames ds, Usable name
  distinct : (boundNames ds).Nodup
  attributes : ∀ d ∈ ds, d.attributes.Nodup

/-- The titles make names of their own: no two tables are named alike, none like something that is
there already, and none with a leading digit or like a constant; and in a table with a primary key
no two columns are named alike. -/
structure WellTitled (db : Database) : Prop where
  tables : (db.tables.entries.map fun t => pascalCase t.title).Nodup
  free : ∀ t ∈ db.tables.entries, ∀ name, pascalCase t.title = .ok name →
    name ≠ baseClass ∧ name ∉ databaseImports db
  worded : ∀ t ∈ db.tables.entries, ∀ name, pascalCase t.title = .ok name →
    startsLikeNumber name = false ∧ name ∉ ["False", "None", "True"]
  columns : ∀ t ∈ db.tables.entries, t.hasPrimary = true →
    t.fields.entries.Pairwise fun f g => ¬ Alike (plainName f.title) (plainName g.title)

theorem base_class_usable : Usable baseClass := by decide

section Clashes

variable {db : Database} {ds : List Definition}

theorem bound_names_usable_iff :
    (∀ name ∈ boundNames ds, Usable name) ↔ ∀ d ∈ ds, Usable d.name := by
  have imports : ∀ name ∈ (sourceImports ds).names, Usable name :=
    fun name member => (imported_names_usable ds name member).1
  rw [boundNames, List.forall_mem_append, List.forall_mem_cons, List.forall_mem_map,
    and_iff_right imports, and_iff_right base_class_usable]

theorem bound_names_distinct_iff : (boundNames ds).Nodup ↔ (ds.map Definition.name).Nodup ∧
    ∀ d ∈ ds, d.name ≠ baseClass ∧ d.name ∉ (sourceImports ds).names := by
  have base : baseClass ∉ (sourceImports ds).names :=
    fun member => (imported_names_usable ds baseClass member).2 rfl
  rw [boundNames, List.nodup_append', List.nodup_cons, List.disjoint_cons_right]
  constructor
  · rintro ⟨_, ⟨apart, names⟩, _, disjoint⟩
    refine ⟨names, fun d member => ⟨?_, ?_⟩⟩
    · exact fun same => apart (List.mem_map.mpr ⟨d, member, same⟩)
    · exact fun held => disjoint held (List.mem_map.mpr ⟨d, member, rfl⟩)
  · rintro ⟨names, free⟩
    refine ⟨imported_names_distinct ds, ⟨?_, names⟩, base, ?_⟩
    · intro member
      obtain ⟨d, among, same⟩ := List.mem_map.mp member
      exact (free d among).1 same
    · intro name held member
      obtain ⟨d, among, rfl⟩ := List.mem_map.mp member
      exact (free d among).2 held

/-- The names of the definitions are those that are made from the titles. -/
theorem forall_names_iff (defined : definitions db = .ok ds) (holds : String → Prop) :
    (∀ d ∈ ds, holds d.name) ↔
      ∀ t ∈ db.tables.entries, ∀ name, pascalCase t.title = .ok name → holds name := by
  have same := definition_names defined
  constructor
  · intro each t member name made
    have among : _ ∈ db.tables.entries.map fun t => pascalCase t.title :=
      List.mem_map.mpr ⟨t, member, made⟩
    rw [← same] at among
    obtain ⟨_, named, alike⟩ := List.mem_map.mp among
    cases alike
    obtain ⟨d, held, rfl⟩ := List.mem_map.mp named
    exact each d held
  · intro each d member
    obtain ⟨t, among, written⟩ := Outcome.mem_mapM defined d member
    exact each t among d.name (of_table_ok written).1

theorem table_attributes_distinct_iff (t : Table) : (tableAttributes t).Nodup ↔
    (t.hasPrimary = true →
      t.fields.entries.Pairwise fun f g => ¬ Alike (plainName f.title) (plainName g.title)) := by
  rw [tableAttributes]
  split
  · next keyed =>
    simp only [List.Nodup, List.pairwise_map, ne_eq, snake_case_eq_iff, keyed, true_imp_iff]
  · next keyless => simp [keyless]

theorem attributes_distinct_iff (defined : definitions db = .ok ds) :
    (∀ d ∈ ds, d.attributes.Nodup) ↔ ∀ t ∈ db.tables.entries, t.hasPrimary = true →
      t.fields.entries.Pairwise fun f g => ¬ Alike (plainName f.title) (plainName g.title) := by
  have same : (∀ d ∈ ds, d.attributes.Nodup) ↔
      ∀ names ∈ ds.map Definition.attributes, names.Nodup := List.forall_mem_map.symm
  rw [same, definition_attributes defined, List.forall_mem_map]
  exact forall₂_congr fun t _ => table_attributes_distinct_iff t

theorem clash_free_iff (defined : definitions db = .ok ds) : ClashFree ds ↔ WellTitled db := by
  have tables : (ds.map Definition.name).Nodup ↔
      (db.tables.entries.map fun t => pascalCase t.title).Nodup := by
    rw [← definition_names defined, List.nodup_map_iff fun _ _ => Except.ok.inj]
  have free := forall_names_iff defined fun name =>
    name ≠ baseClass ∧ name ∉ (sourceImports ds).names
  simp only [source_names_iff defined] at free
  have worded := forall_names_iff defined Usable
  constructor
  · rintro ⟨usable, distinct, attributes⟩
    obtain ⟨names, apart⟩ := bound_names_distinct_iff.mp distinct
    simp only [source_names_iff defined] at apart
    refine ⟨tables.mp names, free.mp apart, ?_, (attributes_distinct_iff defined).mp attributes⟩
    intro t member name made
    have good := worded.mp (bound_names_usable_iff.mp usable) t member name made
    exact (table_name_usable_iff made).mp good
  · rintro ⟨names, apart, spelled, columns⟩
    refine ⟨bound_names_usable_iff.mpr (worded.mpr ?_), bound_names_distinct_iff.mpr ⟨?_, ?_⟩,
      (attributes_distinct_iff defined).mpr columns⟩
    · intro t member name made
      exact (table_name_usable_iff made).mpr (spelled t member name made)
    · exact tables.mpr names
    · simp only [source_names_iff defined]
      exact free.mpr apart

end Clashes

/-! Where the names are bound -/

/-- The name that a statement binds, in front of what is no letter or digit. -/
def statementName (text : List Char) : List Char :=
  (if "class ".toList.isPrefixOf text then text.drop 6 else text).takeWhile isAsciiAlphanumeric

/-- The name that the line of a column binds, behind the indentation. -/
def lineName (line : List Char) : List Char := (line.drop 4).takeWhile isWordChar

section Binding

variable {d : Definition}

theorem class_opens (form : d.form = .mapped) :
    ∃ rest, d.render = "class " ++ d.name ++ "(" ++ rest := by
  rw [Definition.render, form]
  simp [Definition.classText, toString, String.append_assoc]

theorem plain_opens (form : d.form = .plain) :
    ∃ rest, d.render = d.name ++ " = Table(\n    " ++ rest := by
  rw [Definition.render, form]
  simp [Definition.plainText, toString, String.append_assoc]

theorem statement_name {title : String} (named : pascalCase title = .ok d.name) :
    statementName d.render.toList = d.name.toList := by
  obtain ⟨solid, first, others, spelled, large⟩ := pascal_case_ok named
  have taken {stop : Char} (ends : isAsciiAlphanumeric stop = false) (rest : List Char) :
      (d.name.toList ++ stop :: rest).takeWhile isAsciiAlphanumeric = d.name.toList := by
    rw [List.takeWhile_append_of_pos solid, List.takeWhile_cons, ends]
    simp
  cases form : d.form with
  | mapped =>
      obtain ⟨rest, text⟩ := class_opens form
      rw [statementName, text]
      simpa using taken (by decide : isAsciiAlphanumeric '(' = false) rest.toList
  | plain =>
      obtain ⟨rest, text⟩ := plain_opens form
      have apart : "class ".toList.isPrefixOf d.render.toList = false := by
        have initial : 'c' ≠ first := by
          rintro rfl
          cases large
        simp [text, spelled, List.isPrefixOf, initial]
      rw [statementName, apart, text]
      simpa using taken (by decide : isAsciiAlphanumeric ' ' = false) _

theorem line_name (c : WrittenColumn) :
    lineName c.classLine.toList = (snakeCase c.title).toList := by
  have opens : ∃ rest, c.classLine = "    " ++ snakeCase c.title ++ ": Mapped[" ++ rest := by
    simp [WrittenColumn.classLine, toString, String.append_assoc]
  obtain ⟨rest, text⟩ := opens
  have ends : isWordChar ':' = false := by decide
  rw [lineName, text]
  simp [List.takeWhile_append_of_pos (snake_case_word c.title), ends]

end Binding

/-- The text of a source binds its names: each line of imports, each statement and each line of a
class, as they are written. -/
structure Binds (ds : List Definition) : Prop where
  imports : (sourceImports ds).render = "\n".intercalate ((sourceImports ds).map importLine) ∧
    ∀ entry ∈ sourceImports ds,
      lineImports (importLine entry).toList = entry.2.toList.map String.toList
  statements : ∀ d ∈ ds, statementName d.render.toList = d.name.toList
  columns : ∀ d ∈ ds, d.form = .mapped →
    d.attributes.map String.toList = d.columns.map fun c => lineName c.classLine.toList

/-- All names of a module can be used and stand for one thing each if and only if the titles make
names of their own; the names that are imported never clash with one another. -/
theorem source_names_clash_free_iff {db : Database} {text : String}
    (written : source db = .ok text) :
    ∃ ds, definitions db = .ok ds ∧ text = joined (sourcePieces db.title ds) ∧ Binds ds ∧
      (∀ name, name ∈ (sourceImports ds).names ↔ name ∈ databaseImports db) ∧
      (ClashFree ds ↔ WellTitled db) := by
  obtain ⟨ds, defined, cut⟩ := source_pieces written
  refine ⟨ds, defined, cut, ?_, source_names_iff defined, clash_free_iff defined⟩
  refine ⟨⟨rfl, source_line_imports ds⟩, ?_, ?_⟩
  · intro d member
    obtain ⟨t, _, made⟩ := Outcome.mem_mapM defined d member
    exact statement_name (of_table_ok made).1
  · intro d _ form
    simp only [Definition.attributes, form, List.map_map, line_name]
    rfl

def keyField (title : String) : Field := { title, datatype := .signed64, primary := true }

def clinicDatabase : Database where
  tables := .ofList [
    { title := "patient"
      fields := .ofList [keyField "id", { title := "from", datatype := .json }] },
    { title := "visit-log", fields := .ofList [{ title := "2nd", datatype := .string }] }]

theorem source_names_clash_free_clinic :
    ∃ ds text, source clinicDatabase = .ok text ∧ definitions clinicDatabase = .ok ds ∧
      ClashFree ds := by
  obtain ⟨text, written⟩ : ∃ text, source clinicDatabase = .ok text :=
    Outcome.exists_ok (by decide +kernel)
  obtain ⟨ds, defined, _, _, _, free⟩ := source_names_clash_free_iff written
  refine ⟨ds, text, written, defined, free.mpr ?_⟩
  have named : ∀ t ∈ clinicDatabase.tables.entries, ∀ name,
      pascalCase t.title = .ok name → name = "Patient" ∨ name = "VisitLog" := by
    have names : ∀ t ∈ clinicDatabase.tables.entries,
        (pascalCase t.title).toOption ∈ [some "Patient", some "VisitLog"] := by
      decide +kernel
    intro t member name made
    have found := names t member
    rw [made] at found
    simpa [Except.toOption] using found
  refine ⟨by decide +kernel, ?_, ?_, by decide +kernel⟩
  · intro t member name made
    rcases named t member name made with rfl | rfl <;> decide +kernel
  · intro t member name made
    rcases named t member name made with rfl | rfl <;> decide +kernel

/-- A class called like the type of its column. -/
def shadowedDatabase : Database where
  tables := .ofList [{ title := "string", fields := .ofList [{ title := "id", primary := true }] }]

def twinDatabase : Database where
  tables := .ofList [
    { title := "visit", fields := .ofList [keyField "user-id", keyField "user_id"] }]

def numberedDatabase : Database where
  tables := .ofList [{ title := "1st visit" }]

/-- The database has a source, and names in it clash. -/
def Clashes (db : Database) : Prop :=
  ∃ text ds, source db = .ok text ∧ definitions db = .ok ds ∧ ¬ ClashFree ds

theorem clashes_of_titles {db : Database} (accepted : (source db).toOption.isSome = true)
    (ill : ¬ WellTitled db) : Clashes db := by
  obtain ⟨text, written⟩ := Outcome.exists_ok accepted
  obtain ⟨ds, defined, _⟩ := source_pieces written
  exact ⟨text, ds, written, defined, fun free => ill ((clash_free_iff defined).mp free)⟩

theorem source_names_clash :
    Clashes shadowedDatabase ∧ Clashes twinDatabase ∧ Clashes numberedDatabase := by
  refine ⟨clashes_of_titles (by decide +kernel) ?_, clashes_of_titles (by decide +kernel) ?_,
    clashes_of_titles (by decide +kernel) ?_⟩
  · intro well
    have free := well.free _ (List.mem_singleton.mpr rfl) "String" rfl
    exact absurd free.2 (by decide +kernel)
  · intro well
    have columns := well.columns _ (List.mem_singleton.mpr rfl) rfl
    exact absurd columns (by decide +kernel)
  · intro well
    have worded := well.worded _ (List.mem_singleton.mpr rfl) "1stVisit" rfl
    exact absurd worded.1 (by decide +kernel)

end SchemaCompiler.Model
