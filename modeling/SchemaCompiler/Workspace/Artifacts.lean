import SchemaCompiler.Ddl.Reader
import SchemaCompiler.TypeScript
import SchemaCompiler.Workspace.Job

/-!
The files that a database comes from and goes to: the schema dump, the snapshot, and a file of
types for each table.
-/

namespace SchemaCompiler.Workspace

open Files

variable {m : Type → Type} [Monad m] [MonadFiles m] [MonadNotes m]

/-- Reads a schema dump. What the reading notes is left even if it fails. -/
def readSchema (path : Path) (title : String := "Database") : Job m Database := do
  let text ← Job.readText path (.notFound path)
  let result := Ddl.readSchema text title
  result.notes.forM Job.note
  Job.orFail .dump result.outcome

def saveDatabase (db : Stored.Database) (path : Path) : Job m Path := do
  Job.makeFolders path.parent (.snapshotNotWritten path)
  let some text := Snapshot.dump? db | throw .unordered
  Job.write path text (.snapshotNotWritten path)
  Job.note (.info s!"Saved schema snapshot of {db.size} tables to {path}")
  return path

def snapshotFailure (path : Path) (cause : Snapshot.Failure) : Failure :=
  if cause.message?.isSome then .storage (.snapshotUnusable path cause) else .snapshot cause

def loadDatabase (path : Path) : Job m Stored.Database := do
  let text ← Job.readText path (.notFound path)
  let db ← Job.orFail (snapshotFailure path) (Snapshot.load text)
  Job.note (.info s!"Loaded schema snapshot of {db.size} tables from {path}")
  return db

def typesPath (folder : Path) (t : Stored.Table) : Path :=
  folder.join (Path.ofString (Stored.fileName t))

def writeTable (folder : Path) (t : Stored.Table) : Job m Path := do
  let path := typesPath folder t
  let text ← Job.orFail .types (Stored.renderTable t)
  Job.write path text (.typesNotWritten path)
  return path

/-- Writes the types of one table after the other. A table that fails does not keep the others
back; its failure is noted, and the last one is returned beside the paths that were written. A
failure that has no wording ends the work. -/
def writeTables (folder : Path) : List Stored.Table → Job m (List Path × Option Failure)
  | [] => return ([], none)
  | t :: rest => do
    match ← (writeTable folder t).outcome with
    | .ok path =>
      let (written, last) ← writeTables folder rest
      return (path :: written, last)
    | .error failure =>
      match failure.message? with
      | none => throw failure
      | some message =>
        Job.note (.error s!"Failed to export table {t.title.shown}: {message}")
        let (written, last) ← writeTables folder rest
        return (written, some (last.getD failure))

def writeTypes (db : Stored.Database) (folder : Path) : Job m (List Path) := do
  Job.makeFolders folder (.folderNotMade folder)
  let (written, last) ← writeTables folder db.tables.entries
  match last with
  | some failure => throw failure
  | none =>
    Job.note (.info s!"Exported {written.length} tables to {folder}")
    return written

end SchemaCompiler.Workspace
