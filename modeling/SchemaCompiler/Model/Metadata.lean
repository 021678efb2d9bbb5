import SchemaCompiler.Model.ColumnType
import SchemaCompiler.Schema.Database

/-!
The columns of the object model as data.
-/

namespace SchemaCompiler.Model

structure Column where
  name : String
  type : ColumnType
  primaryKey : Bool
  nullable : Bool
  unique : Bool
  autoincrement : Bool
  foreign : Option String
  deriving DecidableEq, Repr

/-- The primary key of the table that a field refers to, when it is there and a single column. -/
def foreignTarget (db : Database) (f : Field) : Option String := do
  let target ← db.table? (← f.foreign)
  match target.fields.entries.filter Field.primary with
  | [key] => some (target.title ++ "." ++ key.title)
  | _ => none

def Column.ofField (db : Database) (f : Field) : Except InternalError Column := do
  let type ← ColumnType.ofField f
  return {
    name := f.title
    type
    primaryKey := f.primary
    nullable := !f.required && !f.primary
    unique := f.unique
    autoincrement := f.increment
    foreign := foreignTarget db f }

def metadata (db : Database) : Except InternalError (List (String × List Column)) :=
  db.tables.entries.mapM fun t => do
    return (t.title, ← t.fields.entries.mapM (Column.ofField db))

end SchemaCompiler.Model
