import SchemaCompiler.Model.Definition

/-!
Source text of the object model: the imports that it needs, a base class, and the definitions.
-/

namespace SchemaCompiler.Model

abbrev Imports := List (String × LabelSet)

namespace Imports

def add (module name : String) : Imports → Imports
  | [] => [(module, LabelSet.empty.insert name)]
  | (m, names) :: rest =>
    if m == module then (m, names.insert name) :: rest else (m, names) :: add module name rest

def render (imports : Imports) : String :=
  "\n".intercalate <| imports.map fun (module, names) =>
    "from " ++ module ++ " import " ++ ", ".intercalate names.toList

def common : Imports :=
  (Imports.add "__future__" "annotations" []).add "sqlalchemy.orm" "DeclarativeBase"

end Imports

def baseClass : String := "Base"

def doubleQuoted (text : String) : String := "\"" ++ text ++ "\""

namespace WrittenColumn

def classImports (imports : Imports) (c : WrittenColumn) : Imports :=
  let value := c.type.valueType
  let imports :=
    if value.module == "builtins" then imports else imports.add value.module value.name
  let imports := imports.add "sqlalchemy" c.type.className
  let imports := if c.foreign.isSome then imports.add "sqlalchemy" "ForeignKey" else imports
  (imports.add "sqlalchemy.orm" "Mapped").add "sqlalchemy.orm" "mapped_column"

def plainImports (imports : Imports) (c : WrittenColumn) : Imports :=
  (imports.add "sqlalchemy" "Column").add "sqlalchemy" c.type.className

def hint (c : WrittenColumn) : String :=
  if c.nullable then c.type.valueType.expression ++ " | None" else c.type.valueType.expression

def arguments (c : WrittenColumn) : List String :=
  [doubleQuoted c.title, c.type.expression] ++
  (match c.foreign with
    | some column => ["ForeignKey(" ++ doubleQuoted column ++ ")"]
    | none => []) ++
  (if c.primaryKey then ["primary_key=True"] else []) ++
  (if c.autoincrement then ["autoincrement=True"] else []) ++
  (if c.unique then ["unique=True"] else [])

def classLine (c : WrittenColumn) : String :=
  let name := Naming.snakeCase c.title
  let list := ", ".intercalate c.arguments
  s!"    {name}: Mapped[{c.hint}] = mapped_column({list})"

def plainText (c : WrittenColumn) : String :=
  let nullable := if c.nullable then "True" else "False"
  "Column(" ++ doubleQuoted c.title ++ ", " ++ c.type.expression ++ ", nullable=" ++ nullable ++ ")"

end WrittenColumn

namespace Definition

def imports (before : Imports) (d : Definition) : Imports :=
  match d.form with
  | .mapped => d.columns.foldl WrittenColumn.classImports before
  | .plain => (d.columns.foldl WrittenColumn.plainImports before).add "sqlalchemy" "Table"

def classText (d : Definition) : String :=
  let head := [
    s!"class {d.name}({baseClass}):",
    s!"    \"\"\"Auto-generated model for the {d.table} table.\"\"\"",
    "",
    "    __tablename__ = " ++ doubleQuoted d.table,
    ""]
  "\n".intercalate (head ++ d.columns.map WrittenColumn.classLine)

def plainText (d : Definition) : String :=
  let arguments :=
    [doubleQuoted d.table, baseClass ++ ".metadata"] ++ d.columns.map WrittenColumn.plainText
  let list := ",\n    ".intercalate arguments
  s!"{d.name} = Table(\n    {list},\n)"

def render (d : Definition) : String :=
  match d.form with
  | .mapped => d.classText
  | .plain => d.plainText

end Definition

def baseDefinition : String :=
  s!"class {baseClass}(DeclarativeBase):\n    \"\"\"Base class for all generated models.\"\"\""

def sourceImports (definitions : List Definition) : Imports :=
  definitions.foldl Definition.imports .common

def source (db : Database) : Except InternalError String := do
  let definitions ← definitions db
  let parts := [
    s!"\"\"\"SQLAlchemy models generated from the {db.title} schema.\"\"\"",
    (sourceImports definitions).render,
    baseDefinition] ++ definitions.map Definition.render
  return "\n\n\n".intercalate parts ++ "\n"

end SchemaCompiler.Model
