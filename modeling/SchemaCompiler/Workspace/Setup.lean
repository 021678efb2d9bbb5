import SchemaCompiler.Workspace.Artifacts
import SchemaCompiler.Workspace.Settings

/-!
Setting up a workspace: from the settings to a database, its snapshot and its types.
-/

namespace SchemaCompiler.Workspace

open Files

variable {m : Type → Type} [Monad m] [MonadFiles m] [MonadNotes m]

/-- The database of the snapshot; that of the dump when it is asked for or when the snapshot is
of no use. -/
def loadSchema (settings : Settings) (reload : Bool) : Job m Stored.Database := do
  if !reload then
    match ← (loadDatabase settings.snapshotPath).outcome with
    | .ok db => return db
    | .error (.storage error) =>
      Job.note (.info s!"Snapshot unavailable ({error.message}), reading the schema dump")
    | .error failure => throw failure
  return Stored.ofDatabase (← readSchema settings.schemaPath)

def init (file : Option Path) (schemaPath : Option String) (reload : Bool) :
    Job m Stored.Database := do
  let settings ← Settings.resolve file schemaPath
  let db ← loadSchema settings reload
  let _ ← saveDatabase db settings.snapshotPath
  let _ ← writeTypes db settings.typePath
  return db

end SchemaCompiler.Workspace
