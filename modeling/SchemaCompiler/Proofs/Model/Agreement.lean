import Mathlib.Control.Monad.Basic
import SchemaCompiler.Ddl.Reader
import SchemaCompiler.Proofs.Model.Statement
import SchemaCompiler.Proofs.Outcome

/-!
The source of the object model states the columns that the metadata holds, with two exceptions: a
length of zero is not told, and a plain table tells of no uniqueness, increment or reference.
-/

namespace SchemaCompiler.Model

/-- A column of the metadata as a statement of the given form tells it. -/
def Form.told : Form → Column → Column
  | .mapped, c => { c with type := c.type.told }
  | .plain, c =>
    { c with type := c.type.told, unique := false, autoincrement := false, foreign := none }

/-- Nothing of the column is left out by a statement of the given form. -/
structure Form.TellsAll (form : Form) (c : Column) : Prop where
  length : c.type ≠ .string (some 0) ∧ c.type ≠ .largeBinary (some 0)
  plain : form = .plain → c.unique = false ∧ c.autoincrement = false ∧ c.foreign = none

theorem type_told_iff (type : ColumnType) :
    type.told = type ↔ type ≠ .string (some 0) ∧ type ≠ .largeBinary (some 0) := by
  unfold ColumnType.told
  split <;> simp_all

theorem told_eq_iff (form : Form) (c : Column) : form.told c = c ↔ form.TellsAll c := by
  obtain ⟨name, type, primaryKey, nullable, unique, autoincrement, foreign⟩ := c
  constructor
  · intro same
    cases form with
    | mapped =>
        simp only [Form.told, Column.mk.injEq, true_and, and_true] at same
        exact ⟨(type_told_iff type).mp same, fun plain => by cases plain⟩
    | plain =>
        simp only [Form.told, Column.mk.injEq, true_and] at same
        obtain ⟨typed, unique, increment, foreign⟩ := same
        exact ⟨(type_told_iff type).mp typed, fun _ => ⟨unique.symm, increment.symm, foreign.symm⟩⟩
  · rintro ⟨length, plain⟩
    have typed := (type_told_iff type).mpr length
    cases form with
    | mapped => simp only [Form.told, typed]
    | plain =>
        obtain ⟨rfl, rfl, rfl⟩ := plain rfl
        simp only [Form.told, typed]

def Definition.columnText (d : Definition) (w : WrittenColumn) : String :=
  match d.form with
  | .mapped => w.classLine
  | .plain => w.plainText

/-- The statement of a written column tells of the field's column in the metadata what its form
can tell. -/
structure Definition.States (d : Definition) (f : Field) (w : WrittenColumn) (c : Column) :
    Prop where
  title : w.title = f.title
  name : c.name = f.title
  told : w.Legible → column? d.form (d.columnText w) = some (d.form.told c)

section Fields

variable {db : Database} {d : Definition} {f : Field} {w : WrittenColumn} {c : Column}

theorem same_type {α β : Type} {write : ColumnType → α} {build : ColumnType → β} {a : α} {b : β}
    (written : (do return write (← ColumnType.ofField f)) = .ok a)
    (built : (do return build (← ColumnType.ofField f)) = .ok b) :
    ∃ type, a = write type ∧ b = build type := by
  obtain ⟨type, typed, same⟩ := (Outcome.bind_ok_iff _ _ _).mp written
  obtain ⟨other, again, alike⟩ := (Outcome.bind_ok_iff _ _ _).mp built
  cases typed.symm.trans again
  cases same
  cases alike
  exact ⟨type, rfl, rfl⟩

theorem class_states (form : d.form = .mapped) (written : WrittenColumn.ofClass db f = .ok w)
    (built : Column.ofField db f = .ok c) : d.States f w c := by
  obtain ⟨type, rfl, rfl⟩ := same_type written built
  refine ⟨rfl, rfl, fun legible => ?_⟩
  rw [Definition.columnText, form, class_line_read legible]
  simp [Form.told]

theorem plain_states (form : d.form = .plain) (keyless : f.primary = false)
    (written : WrittenColumn.ofPlain f = .ok w) (built : Column.ofField db f = .ok c) :
    d.States f w c := by
  obtain ⟨type, rfl, rfl⟩ := same_type written built
  refine ⟨rfl, rfl, fun legible => ?_⟩
  rw [Definition.columnText, form, plain_text_read legible]
  simp [Form.told, keyless]

theorem states_whole (states : d.States f w c) (legible : w.Legible) :
    column? d.form (d.columnText w) = some c ↔ d.form.TellsAll c := by
  rw [states.told legible, Option.some.injEq, told_eq_iff]

end Fields

theorem columns_states {db : Database} {d : Definition} {fields : List Field}
    {write : Field → Except InternalError WrittenColumn} {ws : List WrittenColumn}
    {columns : List Column} (written : fields.mapM write = .ok ws)
    (built : fields.mapM (Column.ofField db) = .ok columns)
    (each : ∀ f ∈ fields, ∀ w c, write f = .ok w → Column.ofField db f = .ok c → d.States f w c)
    (j : Nat) (f : Field) (there : fields[j]? = some f) :
    ∃ w c, ws[j]? = some w ∧ columns[j]? = some c ∧ d.States f w c := by
  obtain ⟨w, among, wrote⟩ := Outcome.mapM_get written there
  obtain ⟨c, held, build⟩ := Outcome.mapM_get built there
  exact ⟨w, c, among, held, each f (List.mem_of_getElem? there) w c wrote build⟩

theorem table_states {db : Database} {t : Table} {d : Definition} {columns : List Column}
    (written : Definition.ofTable db t = .ok d)
    (built : t.fields.entries.mapM (Column.ofField db) = .ok columns) :
    d.table = t.title ∧ (d.form = .mapped ↔ t.hasPrimary = true) ∧
      ∀ (j : Nat) (f : Field), t.fields.entries[j]? = some f →
        ∃ w c, d.columns[j]? = some w ∧ columns[j]? = some c ∧ d.States f w c := by
  obtain ⟨name, _, rest⟩ := (Outcome.bind_ok_iff _ _ _).mp written
  split at rest
  · next keyed =>
    obtain ⟨ws, passed, same⟩ := (Outcome.bind_ok_iff _ _ _).mp rest
    cases same
    exact ⟨rfl, by simp [keyed], columns_states passed built fun _ _ _ _ => class_states rfl⟩
  · next keyless =>
    obtain ⟨ws, passed, same⟩ := (Outcome.bind_ok_iff _ _ _).mp rest
    cases same
    have none : ∀ f ∈ t.fields.entries, f.primary = false := by
      simpa [Table.hasPrimary] using keyless
    exact ⟨rfl, by simp [keyless],
      columns_states passed built fun f member _ _ => plain_states rfl (none f member)⟩

theorem intercalate_tail (gap : String) (front back : List String) :
    ∃ head, gap.intercalate (front ++ back) = head ++ gap.intercalate back := by
  by_cases first : front = []
  · subst first
    exact ⟨"", by simp⟩
  · by_cases last : back = []
    · subst last
      exact ⟨gap.intercalate front, by simp⟩
    · exact ⟨gap.intercalate front ++ gap, String.intercalate_append_of_ne_nil first last⟩

/-- The statements of the columns stand in a definition's text one behind the other. -/
theorem render_columns (d : Definition) : ∃ head gap back : String,
    d.render = head ++ gap.intercalate (d.columns.map d.columnText) ++ back := by
  obtain ⟨form, name, table, columns⟩ := d
  cases form with
  | mapped =>
      have tail : ∃ head, Definition.classText ⟨.mapped, name, table, columns⟩ =
          head ++ "\n".intercalate (columns.map WrittenColumn.classLine) := by
        simp only [Definition.classText]
        exact intercalate_tail _ _ _
      obtain ⟨head, text⟩ := tail
      exact ⟨head, "\n", "", text.trans String.append_empty.symm⟩
  | plain =>
      obtain ⟨head, text⟩ := intercalate_tail ",\n    "
        [doubleQuoted table, baseClass ++ ".metadata"] (columns.map WrittenColumn.plainText)
      refine ⟨name ++ " = Table(\n    " ++ head, ",\n    ", ",\n)", ?_⟩
      change Definition.plainText ⟨.plain, name, table, columns⟩ =
        name ++ " = Table(\n    " ++ head ++
          ",\n    ".intercalate (columns.map WrittenColumn.plainText) ++ ",\n)"
      simp only [Definition.plainText, text, toString, String.append_assoc]

/-- The source consists of definitions, one for every table in order, and their statements tell of
the columns of the metadata, one for every field in order: all of a column whose type has no length
of zero, when its table has a primary key or it is neither unique nor incremented nor refers to
another. -/
theorem source_states_metadata {db : Database} {text : String}
    {tables : List (String × List Column)} (written : source db = .ok text)
    (built : metadata db = .ok tables) :
    ∃ front ds, definitions db = .ok ds ∧
      text = front ++ "\n\n\n".intercalate (ds.map Definition.render) ++ "\n" ∧
      ∀ (i : Nat) (t : Table), db.tables.entries[i]? = some t →
        ∃ d columns, ds[i]? = some d ∧ tables[i]? = some (t.title, columns) ∧
          d.table = t.title ∧ (d.form = .mapped ↔ t.hasPrimary = true) ∧
          (∃ head gap back : String,
            d.render = head ++ gap.intercalate (d.columns.map d.columnText) ++ back) ∧
          ∀ (j : Nat) (f : Field), t.fields.entries[j]? = some f →
            ∃ w c, d.columns[j]? = some w ∧ columns[j]? = some c ∧ d.States f w c ∧
              (w.Legible → (column? d.form (d.columnText w) = some c ↔ d.form.TellsAll c)) := by
  obtain ⟨ds, defined, same⟩ := (Outcome.bind_ok_iff _ _ _).mp written
  cases same
  obtain ⟨front, joined⟩ := intercalate_tail "\n\n\n" _ (ds.map Definition.render)
  refine ⟨front, ds, defined, congrArg (· ++ "\n") joined, fun i t there => ?_⟩
  obtain ⟨d, among, wrote⟩ := Outcome.mapM_get defined there
  obtain ⟨entry, held, build⟩ := Outcome.mapM_get built there
  obtain ⟨columns, each, same⟩ := (Outcome.bind_ok_iff _ _ _).mp build
  cases same
  obtain ⟨title, form, fields⟩ := table_states wrote each
  refine ⟨d, columns, among, held, title, form, render_columns d, fun j f place => ?_⟩
  obtain ⟨w, c, stated, has, states⟩ := fields j f place
  exact ⟨w, c, stated, has, states, states_whole states⟩

def parentField : Field := { title := "parent", datatype := .signed64, foreign := some "item" }

def itemTable : Table where
  title := "item"
  fields := .ofList [
    { title := "id", datatype := .signed64, primary := true, increment := true },
    { title := "kind", datatype := .enum, required := true, labels := some ["new", "used"] },
    parentField]

def noteTable : Table := { title := "note", fields := .ofList [parentField] }

def itemShop : Database := { title := "shop", tables := .ofList [itemTable, noteTable] }

def parentColumn : Column where
  name := "parent"
  type := .bigInteger
  primaryKey := false
  nullable := true
  unique := false
  autoincrement := false
  foreign := some "item.id"

def shopColumns : List (String × List Column) := [
  ("item", [
    { parentColumn with
      name := "id", primaryKey := true, nullable := false, autoincrement := true, foreign := none },
    { parentColumn with
      name := "kind", type := .enum ["new", "used"], nullable := false, foreign := none },
    parentColumn]),
  ("note", [parentColumn])]

def writtenParent (foreign : Option String) : WrittenColumn :=
  { title := "parent", type := .bigInteger, nullable := true, foreign }

def shopDefinitions : List Definition := [
  ⟨.mapped, "Item", "item", [
    { title := "id", type := .bigInteger, nullable := false, primaryKey := true,
      autoincrement := true },
    { title := "kind", type := .enum ["new", "used"], nullable := false },
    writtenParent (some "item.id")]⟩,
  ⟨.plain, "Note", "note", [writtenParent none]⟩]

theorem written_parent_legible (foreign : Option String)
    (plain : ∀ target, foreign = some target →
      ∀ c ∈ target.toList, c ∉ ['"', '\\', '\n', '\r', '\x00']) :
    (writtenParent foreign).Legible :=
  written_legible (w := writtenParent foreign) (by simp [writtenParent])
    (by rintro labels ⟨⟩) plain

/-- The same reference is stated in a class, and in a plain table it is not. -/
theorem source_states_metadata_shop :
    ∃ text, source itemShop = .ok text ∧ metadata itemShop = .ok shopColumns ∧
      column? .mapped (writtenParent (some "item.id")).classLine = some parentColumn ∧
      column? .plain (writtenParent none).plainText ≠ some parentColumn := by
  obtain ⟨text, written⟩ :=
    Outcome.exists_ok (by decide +kernel : (source itemShop).toOption.isSome)
  have built : metadata itemShop = .ok shopColumns := by decide +kernel
  have known : definitions itemShop = .ok shopDefinitions := by decide +kernel
  obtain ⟨front, ds, defined, _, stated⟩ := source_states_metadata written built
  cases known.symm.trans defined
  obtain ⟨d, columns, among, held, _, _, _, fields⟩ := stated 0 itemTable (by decide +kernel)
  obtain ⟨other, others, after, there, _, _, _, rest⟩ := stated 1 noteTable (by decide +kernel)
  cases among
  cases held
  cases after
  cases there
  obtain ⟨w, c, stands, has, _, keyed⟩ := fields 2 parentField (by decide +kernel)
  obtain ⟨w', c', stands', has', _, plain⟩ := rest 0 parentField (by decide +kernel)
  cases stands
  cases has
  cases stands'
  cases has'
  refine ⟨text, written, built, ?_, ?_⟩
  · refine (keyed (written_parent_legible _ (by simp))).mpr ⟨by decide, ?_⟩
    intro form
    cases form
  · intro same
    have all := (plain (written_parent_legible _ (by simp))).mp same
    cases (all.plain rfl).2.2

def uniqueDump : String := "CREATE TABLE `t` (\n`a` int UNIQUE\n);"

def uniqueField : Field := { title := "a", datatype := .signed64, bytes := some 64, unique := true }

def uniqueDatabase : Database where
  tables := .ofList [{ title := "t", fields := .ofList [uniqueField] }]

def uniqueColumn : Column where
  name := "a"
  type := .bigInteger
  primaryKey := false
  nullable := true
  unique := true
  autoincrement := false
  foreign := none

def uniqueSource : String :=
  "\"\"\"SQLAlchemy models generated from the Database schema.\"\"\"\n\n\n" ++
  "from __future__ import annotations\n" ++
  "from sqlalchemy.orm import DeclarativeBase\n" ++
  "from sqlalchemy import BigInteger, Column, Table\n\n\n" ++
  "class Base(DeclarativeBase):\n    \"\"\"Base class for all generated models.\"\"\"\n\n\n" ++
  "T = Table(\n    \"t\",\n    Base.metadata,\n    " ++
  "Column(\"a\", BigInteger, nullable=True)" ++ ",\n)\n"

/-- A unique column of a table without a primary key is stated as one that is not unique. -/
theorem unique_column_untold :
    Ddl.parseSchema uniqueDump "Database" = .ok uniqueDatabase ∧
      (∀ t ∈ uniqueDatabase.tables.entries,
        ∀ f ∈ t.fields.entries, f.checkConsistency = .ok ()) ∧
      source uniqueDatabase = .ok uniqueSource ∧
      metadata uniqueDatabase = .ok [("t", [uniqueColumn])] ∧
      column? .plain "Column(\"a\", BigInteger, nullable=True)" =
        some { uniqueColumn with unique := false } ∧
      { uniqueColumn with unique := false } ≠ uniqueColumn := by
  refine ⟨?_, ?_, ?_, ?_, ?_, ?_⟩
  · decide +kernel
  · decide +kernel
  · decide +kernel
  · decide +kernel
  · decide +kernel
  · decide

end SchemaCompiler.Model
