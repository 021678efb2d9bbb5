import SchemaCompiler.Model.Metadata
import SchemaCompiler.Naming

/-!
Definitions of the object model as its source states them: a class for every table with a primary
key, and a plain table for the others.
-/

namespace SchemaCompiler.Model

/-- What the source says of a column. A plain table says nothing of keys and of the values'
making. -/
structure WrittenColumn where
  title : String
  type : ColumnType
  nullable : Bool
  primaryKey : Bool := false
  unique : Bool := false
  autoincrement : Bool := false
  foreign : Option String := none
  deriving DecidableEq, Repr

def WrittenColumn.ofClass (db : Database) (f : Field) : Except InternalError WrittenColumn := do
  let type ← ColumnType.ofField f
  return {
    title := f.title
    type
    nullable := !(f.required || f.primary)
    primaryKey := f.primary
    unique := f.unique
    autoincrement := f.increment
    foreign := foreignTarget db f }

def WrittenColumn.ofPlain (f : Field) : Except InternalError WrittenColumn := do
  let type ← ColumnType.ofField f
  return { title := f.title, type, nullable := !f.required }

inductive Form where
  | mapped
  | plain
  deriving DecidableEq, Repr

structure Definition where
  form : Form
  name : String
  table : String
  columns : List WrittenColumn
  deriving DecidableEq, Repr

def Definition.ofTable (db : Database) (t : Table) : Except InternalError Definition := do
  let name ← Naming.pascalCase t.title
  if t.hasPrimary then
    return ⟨.mapped, name, t.title, ← t.fields.entries.mapM (WrittenColumn.ofClass db)⟩
  else return ⟨.plain, name, t.title, ← t.fields.entries.mapM WrittenColumn.ofPlain⟩

def definitions (db : Database) : Except InternalError (List Definition) :=
  db.tables.entries.mapM (Definition.ofTable db)

end SchemaCompiler.Model
