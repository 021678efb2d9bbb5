import SchemaCompiler.Schema.Field
import SchemaCompiler.Text.Lines

/-!
Tables and databases. Fields and tables keep the order in which they were declared.
-/

namespace SchemaCompiler

structure Table where
  title : String
  fields : Catalog Field := .empty
  deriving DecidableEq

instance : Titled Table String := ⟨Table.title⟩

namespace Table

def display (t : Table) : String :=
  let fields := Text.joinWith ", " (t.fields.entries.map Field.display)
  s!"{t.title}: ({fields})"

def size (t : Table) : Nat := t.fields.size

def field? (t : Table) (title : String) : Option Field := t.fields.find? title

def add (t : Table) (field : Field) : Table := { t with fields := t.fields.put field }

def markPrimary (t : Table) (column : String) : Table :=
  { t with fields := t.fields.modify column (fun f => { f with primary := true }) fun _ h => h }

def markUnique (t : Table) (column : String) : Table :=
  { t with fields := t.fields.modify column (fun f => { f with unique := true }) fun _ h => h }

def markForeign (t : Table) (column target : String) : Table :=
  { t with
    fields := t.fields.modify column (fun f => { f with foreign := some target }) fun _ h => h }

def hasPrimary (t : Table) : Bool := t.fields.entries.any Field.primary

end Table

structure Database where
  title : String := "Database"
  tables : Catalog Table := .empty
  deriving DecidableEq

namespace Database

def size (db : Database) : Nat := db.tables.size

def isEmpty (db : Database) : Bool := db.size == 0

def table? (db : Database) (title : String) : Option Table := db.tables.find? title

/-- Adds a table at the end; one of the same title goes. -/
def add (db : Database) (table : Table) : Database :=
  { db with tables := db.tables.putLast table }

def update (db : Database) (table : Table) : Database := { db with tables := db.tables.put table }

end Database

end SchemaCompiler
