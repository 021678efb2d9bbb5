import SchemaCompiler.Proofs.Schema.Catalog
import SchemaCompiler.Schema.Database

/-!
Databases whose tables are added or changed one by one.
-/

namespace SchemaCompiler.Database

theorem foldl_add_tables (db : Database) (tables : List Table) :
    tables.foldl Database.add db =
      { title := db.title, tables := tables.foldl Catalog.putLast db.tables } := by
  induction tables generalizing db with
  | nil => rfl
  | cons t rest ih => exact ih (db.add t)

/-- The tables of the second database stand behind those of the first one whose titles they do
not take. -/
theorem foldl_add_entries (db more : Database) :
    (more.tables.entries.foldl Database.add db).tables.entries =
      db.tables.entries.filter (fun t => !more.tables.contains t.title) ++ more.tables.entries := by
  rw [foldl_add_tables]
  exact Catalog.foldl_put_last db.tables more.tables.entries more.tables.distinct

theorem foldl_add_more (db more : Database) (t : Table) :
    (more.add t).tables.entries.foldl Database.add db =
      (more.tables.entries.foldl Database.add db).add t := by
  rw [foldl_add_tables, foldl_add_tables, Database.add, Database.add,
    Catalog.foldl_put_last_more]

theorem update_found {db : Database} {title : String} {t : Table}
    (found : db.table? title = some t) : db.update t = db := by
  rw [Database.update, Catalog.put_found found]

end SchemaCompiler.Database
