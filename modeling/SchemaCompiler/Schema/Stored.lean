import SchemaCompiler.Schema.Database
import SchemaCompiler.Schema.Scalar

/-!
Databases as snapshots hold them. What a snapshot says of a field is kept as it is, of whatever
kind; only the datatype is looked into, and titles and members have to be scalars. Every database
can be held so.
-/

namespace SchemaCompiler.Stored

/-- Attributes that are not set are null. -/
structure Field where
  title : Scalar
  datatype : Datatype
  bytes : Json := .null
  characters : Json := .null
  decimals : Json := .null
  regex : Json := .null
  primary : Json := .bool false
  unique : Json := .bool false
  required : Json := .bool false
  foreign : Json := .null
  increment : Json := .bool false
  generated : Json := .bool false
  labels : Option (List Json) := none
  members : Option ScalarSet := none

instance : Titled Field (List Int) := ⟨fun f => f.title.key⟩

def Field.checkConsistency (f : Field) : Except InternalError Unit :=
  consistency f.title.shown s!"{f.title.shown} ({f.datatype.name})" f.datatype f.labels.isSome
    f.members.isSome

structure Table where
  title : Scalar
  fields : Catalog Field := .empty

instance : Titled Table (List Int) := ⟨fun t => t.title.key⟩

structure Database where
  title : Json
  tables : Catalog Table := .empty

def Database.size (db : Database) : Nat := db.tables.size

def Database.add (db : Database) (table : Table) : Database :=
  { db with tables := db.tables.putLast table }

def orNull {α : Type} (toJson : α → Json) (value : Option α) : Json := (value.map toJson).getD .null

def ofField (f : SchemaCompiler.Field) : Field where
  title := f.title
  datatype := f.datatype
  bytes := orNull .integer f.bytes
  characters := orNull .integer f.characters
  decimals := orNull .integer f.decimals
  regex := orNull (fun (regex : String) => .string regex) f.regex
  primary := .bool f.primary
  unique := .bool f.unique
  required := .bool f.required
  foreign := orNull (fun (table : String) => .string table) f.foreign
  increment := .bool f.increment
  generated := .bool f.generated
  labels := f.labels.map fun labels => labels.map fun (label : String) => .string label
  members := f.members.map fun s => .ofList (s.toList.map fun (member : String) => .text member)

def ofTable (t : SchemaCompiler.Table) : Table where
  title := t.title
  fields := .ofList (t.fields.entries.map ofField)

def ofDatabase (db : SchemaCompiler.Database) : Database where
  title := .string db.title
  tables := .ofList (db.tables.entries.map ofTable)

end SchemaCompiler.Stored
