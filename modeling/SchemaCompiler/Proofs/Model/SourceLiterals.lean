import Mathlib.Control.Monad.Basic
import SchemaCompiler.Ddl.Reader
import SchemaCompiler.Proofs.Model.LiteralText
import SchemaCompiler.Proofs.Outcome

/-!
The literals in the source of the object model. The source is cut into code and literals: titles
and references stand between double quotes as they are, labels are escaped as in JSON, and which
of them denote their texts depends on these alone.
-/

namespace SchemaCompiler.Model

/-- A literal of the source, its text as it stands or escaped. -/
inductive Literal where
  | verbatim (text : String)
  | escaped (text : String)
  deriving DecidableEq

namespace Literal

/-- The title, reference or label that is meant. -/
def text : Literal → String
  | verbatim text => text
  | escaped text => text

def written : Literal → String
  | verbatim text => doubleQuoted text
  | escaped text => Json.quoted text

/-- What is written is one literal, and it denotes what is meant. -/
def Faithful (l : Literal) : Prop := literal? l.written.toList = some l.text

/-- As it stands, a text is kept when nothing in it ends the literal or starts an escape; escaped,
when no character of it is beyond the basic plane. -/
def Safe : Literal → Prop
  | verbatim text => Verbatim text.toList
  | escaped text => ∀ c ∈ text.toList, c.toNat < 0x10000

instance (l : Literal) : Decidable l.Faithful :=
  inferInstanceAs (Decidable (literal? l.written.toList = some l.text))

instance : (l : Literal) → Decidable l.Safe
  | verbatim text => inferInstanceAs (Decidable (Verbatim text.toList))
  | escaped text => List.decidableBAll (fun c : Char => c.toNat < 0x10000) text.toList

theorem faithful_iff (l : Literal) : l.Faithful ↔ l.Safe := by
  cases l with
  | verbatim text => exact literal_double_quoted_iff text
  | escaped text => exact literal_quoted_iff text

end Literal

/-! Pieces of the source -/

inductive Piece where
  | code (text : String)
  | literal (l : Literal)

def Piece.text : Piece → String
  | code text => text
  | literal l => l.written

def Piece.literal? : Piece → Option Literal
  | code _ => none
  | literal l => some l

def joined (pieces : List Piece) : String := String.join (pieces.map Piece.text)

def literals (pieces : List Piece) : List Literal := pieces.filterMap Piece.literal?

def separated (gap : String) : List (List Piece) → List Piece
  | [] => []
  | [part] => part
  | part :: next :: rest => part ++ .code gap :: separated gap (next :: rest)

section Pieces

variable (text gap : String) (l : Literal) (pieces more : List Piece)

@[simp] theorem joined_nil : joined [] = "" := rfl

@[simp] theorem joined_code : joined (.code text :: pieces) = text ++ joined pieces := by
  simp [joined, Piece.text]

@[simp] theorem joined_literal : joined (.literal l :: pieces) = l.written ++ joined pieces := by
  simp [joined, Piece.text]

@[simp] theorem joined_append : joined (pieces ++ more) = joined pieces ++ joined more := by
  simp [joined]

@[simp] theorem literals_nil : literals [] = [] := rfl

@[simp] theorem literals_code : literals (.code text :: pieces) = literals pieces := rfl

@[simp] theorem literals_literal :
    literals (.literal l :: pieces) = l :: literals pieces := rfl

@[simp] theorem literals_append :
    literals (pieces ++ more) = literals pieces ++ literals more := by
  simp [literals]

theorem joined_separated (parts : List (List Piece)) :
    joined (separated gap parts) = gap.intercalate (parts.map joined) := by
  induction parts with
  | nil => simp [separated]
  | cons part rest ih =>
      cases rest with
      | nil => simp [separated]
      | cons next rest =>
          rw [separated, joined_append, joined_code, ih]
          simp only [List.map_cons, String.intercalate_cons_cons, String.append_assoc]

theorem literals_separated (parts : List (List Piece)) :
    literals (separated gap parts) = parts.flatMap literals := by
  induction parts with
  | nil => rfl
  | cons part rest ih =>
      cases rest with
      | nil => simp [separated]
      | cons next rest => simp [separated, ih]

end Pieces

/-! Columns -/

def labelPieces (labels : List String) : List Piece :=
  separated ", " (labels.map fun label => [.literal (.escaped label)])

namespace ColumnType

def pieces : ColumnType → List Piece
  | enum labels => .code "Enum(" :: labelPieces labels ++ [.code ")"]
  | type => [.code type.expression]

def valuePieces : ColumnType → List Piece
  | enum labels => .code "Literal[" :: labelPieces labels ++ [.code "]"]
  | type => [.code type.valueType.expression]

def literals : ColumnType → List Literal
  | enum labels => labels.map .escaped
  | _ => []

end ColumnType

theorem joined_labels (labels : List String) :
    joined (labelPieces labels) = ColumnType.quotedLabels labels := by
  rw [labelPieces, joined_separated, ColumnType.quotedLabels, List.map_map]
  exact congrArg _ (List.map_congr_left fun label _ => by simp [Literal.written])

theorem literals_labels (labels : List String) :
    literals (labelPieces labels) = labels.map .escaped := by
  rw [labelPieces, literals_separated, List.flatMap_map, List.map_eq_flatMap]
  rfl

theorem joined_type (type : ColumnType) : joined type.pieces = type.expression := by
  cases type <;>
    simp [ColumnType.pieces, ColumnType.expression, ColumnType.className, joined_labels,
      String.append_assoc]

theorem joined_value (type : ColumnType) :
    joined type.valuePieces = type.valueType.expression := by
  cases type <;>
    simp [ColumnType.valuePieces, ColumnType.valueType, joined_labels, String.append_assoc]

theorem literals_type (type : ColumnType) : literals type.pieces = type.literals := by
  cases type <;> simp [ColumnType.pieces, ColumnType.literals, literals_labels]

theorem literals_value (type : ColumnType) : literals type.valuePieces = type.literals := by
  cases type <;> simp [ColumnType.valuePieces, ColumnType.literals, literals_labels]

namespace WrittenColumn

variable (c : WrittenColumn)

def hintPieces : List Piece :=
  if c.nullable then c.type.valuePieces ++ [.code " | None"] else c.type.valuePieces

def foreignPieces : List (List Piece) :=
  match c.foreign with
  | some column => [[.code "ForeignKey(", .literal (.verbatim column), .code ")"]]
  | none => []

def flags : List String :=
  (if c.primaryKey then ["primary_key=True"] else []) ++
  (if c.autoincrement then ["autoincrement=True"] else []) ++
  (if c.unique then ["unique=True"] else [])

def argumentPieces : List (List Piece) :=
  [[.literal (.verbatim c.title)], c.type.pieces] ++ c.foreignPieces ++
    c.flags.map fun flag => [.code flag]

def classPieces : List Piece :=
  .code ("    " ++ Naming.snakeCase c.title ++ ": Mapped[") :: c.hintPieces ++
    .code "] = mapped_column(" :: separated ", " c.argumentPieces ++ [.code ")"]

def plainPieces : List Piece :=
  .code "Column(" :: .literal (.verbatim c.title) :: .code ", " :: c.type.pieces ++
    [.code (", nullable=" ++ (if c.nullable then "True" else "False") ++ ")")]

/-- The literals of a column in a class, in the order in which they are written. -/
def classLiterals : List Literal :=
  c.type.literals ++ .verbatim c.title :: c.type.literals ++ c.foreign.toList.map .verbatim

def plainLiterals : List Literal := .verbatim c.title :: c.type.literals

end WrittenColumn

section Columns

variable (c : WrittenColumn)

theorem joined_hint : joined c.hintPieces = c.hint := by
  rw [WrittenColumn.hintPieces, WrittenColumn.hint]
  split <;> simp [joined_value]

theorem joined_arguments : c.argumentPieces.map joined = c.arguments := by
  have flags : (c.flags.map fun flag => [Piece.code flag]).map joined = c.flags := by
    rw [List.map_map]
    exact (List.map_congr_left fun flag _ => by simp).trans (List.map_id _)
  rw [WrittenColumn.argumentPieces, List.map_append, List.map_append, flags,
    WrittenColumn.arguments, WrittenColumn.flags, WrittenColumn.foreignPieces]
  cases c.foreign <;> simp [joined_type, Literal.written, String.append_assoc]

theorem joined_class : joined c.classPieces = c.classLine := by
  simp [WrittenColumn.classPieces, WrittenColumn.classLine, joined_hint, joined_separated,
    joined_arguments, String.append_assoc, toString]

theorem joined_plain : joined c.plainPieces = c.plainText := by
  simp [WrittenColumn.plainPieces, WrittenColumn.plainText, joined_type, Literal.written,
    String.append_assoc]

theorem literals_class : literals c.classPieces = c.classLiterals := by
  have hint : literals c.hintPieces = c.type.literals := by
    rw [WrittenColumn.hintPieces]
    split <;> simp [literals_value]
  have foreign : c.foreignPieces.flatMap literals = c.foreign.toList.map .verbatim := by
    rw [WrittenColumn.foreignPieces]
    split <;> simp [*]
  have flags : (c.flags.map fun flag => [Piece.code flag]).flatMap literals = [] := by
    simp [List.flatMap_eq_nil_iff]
  simp [WrittenColumn.classPieces, WrittenColumn.classLiterals, WrittenColumn.argumentPieces,
    hint, literals_separated, literals_type, foreign, flags]

theorem literals_plain : literals c.plainPieces = c.plainLiterals := by
  simp [WrittenColumn.plainPieces, WrittenColumn.plainLiterals, literals_type]

end Columns

/-! Definitions -/

namespace Definition

variable (d : Definition)

def classPieces : List Piece :=
  separated "\n" ([
    [.code s!"class {d.name}({baseClass}):"],
    [.code s!"    \"\"\"Auto-generated model for the {d.table} table.\"\"\""],
    [.code ""],
    [.code "    __tablename__ = ", .literal (.verbatim d.table)],
    [.code ""]] ++ d.columns.map WrittenColumn.classPieces)

def plainPieces : List Piece :=
  .code s!"{d.name} = Table(\n    " ::
    separated ",\n    " ([[.literal (.verbatim d.table)], [.code (baseClass ++ ".metadata")]] ++
      d.columns.map WrittenColumn.plainPieces) ++ [.code ",\n)"]

def pieces : List Piece :=
  match d.form with
  | .mapped => d.classPieces
  | .plain => d.plainPieces

end Definition

theorem joined_definition (d : Definition) : joined d.pieces = d.render := by
  have lines : joined ∘ WrittenColumn.classPieces = WrittenColumn.classLine := funext joined_class
  have arguments : joined ∘ WrittenColumn.plainPieces = WrittenColumn.plainText :=
    funext joined_plain
  rw [Definition.pieces, Definition.render]
  cases d.form with
  | mapped =>
      simp [Definition.classPieces, Definition.classText, joined_separated, lines, Literal.written]
  | plain =>
      simp [Definition.plainPieces, Definition.plainText, joined_separated, arguments,
        Literal.written, toString, String.append_assoc]

theorem literals_definition (d : Definition) : literals d.pieces =
    .verbatim d.table :: d.columns.flatMap (match d.form with
      | .mapped => WrittenColumn.classLiterals
      | .plain => WrittenColumn.plainLiterals) := by
  rw [Definition.pieces]
  cases d.form with
  | mapped =>
      simp [Definition.classPieces, literals_separated, List.flatMap_map, literals_class]
  | plain =>
      simp [Definition.plainPieces, literals_separated, List.flatMap_map, literals_plain]

/-- The source, cut into code and literals. -/
def sourcePieces (title : String) (ds : List Definition) : List Piece :=
  separated "\n\n\n" ([
    [.code s!"\"\"\"SQLAlchemy models generated from the {title} schema.\"\"\""],
    [.code (sourceImports ds).render],
    [.code baseDefinition]] ++ ds.map Definition.pieces) ++ [.code "\n"]

theorem source_pieces {db : Database} {text : String} (written : source db = .ok text) :
    ∃ ds, definitions db = .ok ds ∧ text = joined (sourcePieces db.title ds) := by
  obtain ⟨ds, defined, same⟩ := (Outcome.bind_ok_iff _ _ _).mp written
  cases same
  have renders : joined ∘ Definition.pieces = Definition.render := funext joined_definition
  exact ⟨ds, defined, by simp [sourcePieces, joined_separated, renders]⟩

/-! What the literals are for -/

/-- The labels of an enum, as its column type states them. -/
def labelLiterals (f : Field) : List Literal :=
  if f.datatype = .enum then (f.labels.getD []).map .escaped else []

/-- A column of a class: the labels in the type of its values, the title, the labels again in the
type of the column, and the column that it refers to. -/
def classFieldLiterals (db : Database) (f : Field) : List Literal :=
  labelLiterals f ++ .verbatim f.title :: labelLiterals f ++
    (foreignTarget db f).toList.map .verbatim

def plainFieldLiterals (f : Field) : List Literal := .verbatim f.title :: labelLiterals f

def tableLiterals (db : Database) (t : Table) : List Literal :=
  .verbatim t.title :: t.fields.entries.flatMap
    (if t.hasPrimary then classFieldLiterals db else plainFieldLiterals)

theorem type_label_literals {f : Field} {type : ColumnType}
    (typed : ColumnType.ofField f = .ok type) : type.literals = labelLiterals f := by
  unfold ColumnType.ofField at typed
  rw [labelLiterals]
  split at typed
  case h_16 kind =>
      split at typed
      · next labels known =>
        cases typed
        simp [ColumnType.literals, kind, known]
      · cases typed
  all_goals
    next kind =>
      cases typed
      simp [ColumnType.literals, kind]

theorem class_field_literals {db : Database} {f : Field} {w : WrittenColumn}
    (written : WrittenColumn.ofClass db f = .ok w) : w.classLiterals = classFieldLiterals db f := by
  obtain ⟨type, typed, same⟩ := (Outcome.bind_ok_iff _ _ _).mp written
  cases same
  simp [WrittenColumn.classLiterals, classFieldLiterals, type_label_literals typed]

theorem plain_field_literals {f : Field} {w : WrittenColumn}
    (written : WrittenColumn.ofPlain f = .ok w) : w.plainLiterals = plainFieldLiterals f := by
  obtain ⟨type, typed, same⟩ := (Outcome.bind_ok_iff _ _ _).mp written
  cases same
  simp [WrittenColumn.plainLiterals, plainFieldLiterals, type_label_literals typed]

theorem flatMap_mapM {ε α β γ : Type} {write : α → Except ε β} {inner : β → List γ}
    {outer : α → List γ} (each : ∀ a b, write a = .ok b → inner b = outer a) {items : List α}
    {results : List β} (passed : items.mapM write = .ok results) :
    results.flatMap inner = items.flatMap outer := by
  induction items generalizing results with
  | nil =>
      cases passed
      rfl
  | cons a rest ih =>
      rw [List.mapM_cons] at passed
      obtain ⟨b, first, later⟩ := (Outcome.bind_ok_iff _ _ _).mp passed
      obtain ⟨bs, others, same⟩ := (Outcome.bind_ok_iff _ _ _).mp later
      cases same
      rw [List.flatMap_cons, List.flatMap_cons, each a b first, ih others]

theorem table_literals {db : Database} {t : Table} {d : Definition}
    (written : Definition.ofTable db t = .ok d) : literals d.pieces = tableLiterals db t := by
  obtain ⟨name, _, rest⟩ := (Outcome.bind_ok_iff _ _ _).mp written
  rw [literals_definition, tableLiterals]
  split at rest
  · next keyed =>
    obtain ⟨ws, passed, same⟩ := (Outcome.bind_ok_iff _ _ _).mp rest
    cases same
    rw [keyed, if_pos rfl]
    exact congrArg _ (flatMap_mapM (fun _ _ => class_field_literals) passed)
  · next keyless =>
    obtain ⟨ws, passed, same⟩ := (Outcome.bind_ok_iff _ _ _).mp rest
    cases same
    rw [if_neg keyless]
    exact congrArg _ (flatMap_mapM (fun _ _ => plain_field_literals) passed)

/-- The literals of the source are those of the tables in order, and each denotes what is meant
exactly when it is safe. -/
theorem source_literals_faithful_iff {db : Database} {text : String}
    (written : source db = .ok text) :
    ∃ ds, definitions db = .ok ds ∧ text = joined (sourcePieces db.title ds) ∧
      literals (sourcePieces db.title ds) = db.tables.entries.flatMap (tableLiterals db) ∧
      ∀ l ∈ literals (sourcePieces db.title ds), l.Faithful ↔ l.Safe := by
  obtain ⟨ds, defined, cut⟩ := source_pieces written
  refine ⟨ds, defined, cut, ?_, fun l _ => l.faithful_iff⟩
  rw [← flatMap_mapM (fun _ _ => table_literals) defined]
  simp [sourcePieces, literals_separated, List.flatMap_map]

def priceField : Field :=
  { title := "sale\\price", datatype := .signed64, primary := true }

def moodField : Field := { title := "mood", datatype := .enum, labels := some ["é", "😀"] }

def saleDatabase : Database where
  title := "shop"
  tables := .ofList [{ title := "sale", fields := .ofList [priceField, moodField] }]

/-- A backslash in a title is kept where it starts no escape, and a label is not kept when it needs
two units. -/
theorem source_literals_faithful_sale :
    ∃ text ds, source saleDatabase = .ok text ∧
      text = joined (sourcePieces "shop" ds) ∧
      literals (sourcePieces "shop" ds) = [.verbatim "sale", .verbatim "sale\\price",
        .escaped "é", .escaped "😀", .verbatim "mood", .escaped "é", .escaped "😀"] ∧
      Literal.Faithful (.verbatim "sale") ∧ Literal.Faithful (.verbatim "sale\\price") ∧
      Literal.Faithful (.escaped "é") ∧ ¬ Literal.Faithful (.escaped "😀") := by
  obtain ⟨text, written⟩ :=
    Outcome.exists_ok (by decide +kernel : (source saleDatabase).toOption.isSome)
  obtain ⟨ds, _, cut, list, faithful⟩ := source_literals_faithful_iff written
  have known : saleDatabase.tables.entries.flatMap (tableLiterals saleDatabase) =
      [.verbatim "sale", .verbatim "sale\\price", .escaped "é", .escaped "😀",
        .verbatim "mood", .escaped "é", .escaped "😀"] := by decide +kernel
  rw [known] at list
  rw [list] at faithful
  refine ⟨text, ds, written, cut, list, ?_, ?_, ?_, ?_⟩
  · exact (faithful _ (by simp)).mpr (by decide +kernel)
  · exact (faithful _ (by simp)).mpr (by decide +kernel)
  · exact (faithful _ (by simp)).mpr (by decide +kernel)
  · exact (not_congr (faithful _ (by simp))).mpr (by decide +kernel)

def oddDump : String := "CREATE TABLE `t` (\n`a\"b` int,\n`mood` enum('😀')\n);"

def oddDatabase : Database where
  tables := .ofList [{
    title := "t"
    fields := .ofList [
      { title := "a\"b", datatype := .signed64, bytes := some 64 },
      { title := "mood", datatype := .enum, labels := some ["😀"] }] }]

def oddSource : String :=
  "\"\"\"SQLAlchemy models generated from the Database schema.\"\"\"\n\n\n" ++
  "from __future__ import annotations\n" ++
  "from sqlalchemy.orm import DeclarativeBase\n" ++
  "from sqlalchemy import BigInteger, Column, Enum, Table\n\n\n" ++
  "class Base(DeclarativeBase):\n    \"\"\"Base class for all generated models.\"\"\"\n\n\n" ++
  "T = Table(\n    \"t\",\n    Base.metadata,\n    " ++
  "Column(\"a\"b\", BigInteger, nullable=True),\n    " ++
  "Column(\"mood\", Enum(\"\\ud83d\\ude00\"), nullable=True),\n)\n"

/-- A quote in a title ends its literal, and the pair of units that a label becomes denotes no
character. -/
theorem odd_literals_unfaithful :
    Ddl.parseSchema oddDump "Database" = .ok oddDatabase ∧
      source oddDatabase = .ok oddSource ∧
      oddDatabase.tables.entries.flatMap (tableLiterals oddDatabase) =
        [.verbatim "t", .verbatim "a\"b", .verbatim "mood", .escaped "😀"] ∧
      (Literal.verbatim "a\"b").written = "\"a\"b\"" ∧ literal? "\"a\"b\"".toList = none ∧
      (Literal.escaped "😀").written = "\"\\ud83d\\ude00\"" ∧
      literal? "\"\\ud83d\\ude00\"".toList = none := by
  refine ⟨?_, ?_, ?_, ?_, ?_, ?_, ?_⟩
  all_goals decide +kernel

end SchemaCompiler.Model
