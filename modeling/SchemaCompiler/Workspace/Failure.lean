import SchemaCompiler.Ddl.ParseError
import SchemaCompiler.Files.Fault
import SchemaCompiler.Files.Path
import SchemaCompiler.Snapshot
import SchemaCompiler.Toml.Basic
import SchemaCompiler.TypeScript.Stored
import SchemaCompiler.Validation.Error

/-!
How work on files fails.
-/

namespace SchemaCompiler.Workspace

open Files

inductive StorageError where
  | notFound (path : Path) (refusal : Refusal)
  | snapshotNotWritten (path : Path) (refusal : Refusal)
  | snapshotUnusable (path : Path) (cause : Snapshot.Failure)
  | folderNotMade (path : Path) (refusal : Refusal)
  | typesNotWritten (path : Path) (refusal : Refusal)
  | settingsNotWritten (path : Path) (refusal : Refusal)
  | settingsMalformed (path : Path)
  | settingsNoTable (path : Path)
  | settingNoString (path : Path) (key : String) (value : Toml.Value)

def settingsTable : String := "ddl-toolkit"

namespace StorageError

def path : StorageError → Path
  | notFound path _ => path
  | snapshotNotWritten path _ => path
  | snapshotUnusable path _ => path
  | folderNotMade path _ => path
  | typesNotWritten path _ => path
  | settingsNotWritten path _ => path
  | settingsMalformed path => path
  | settingsNoTable path => path
  | settingNoString path _ _ => path

def message : StorageError → String
  | notFound path refusal => s!"failed to find file <{path}>: {refusal.message}"
  | snapshotNotWritten path refusal => s!"failed to write snapshot <{path}>: {refusal.message}"
  | snapshotUnusable path cause => path.toString ++ ": " ++ cause.message?.getD ""
  | folderNotMade path refusal => s!"failed to create folder {path}: {refusal.message}"
  | typesNotWritten path refusal => s!"failed to write {path}: {refusal.message}"
  | settingsNotWritten path refusal => s!"failed to write config <{path}>: {refusal.message}"
  | settingsMalformed path => s!"invalid config file <{path}>"
  | settingsNoTable path => s!"config table {settingsTable} in <{path}> must be a table"
  | settingNoString path key value =>
    s!"config key {key} in <{path}> must be a string, got {value.display}"

end StorageError

/-- Failures are told to the user as far as they have a message; one without a message is not
foreseen and ends all work. -/
inductive Failure where
  | storage (error : StorageError)
  | dump (failure : Ddl.Failure)
  | design (error : InternalError)
  | snapshot (failure : Snapshot.Failure)
  | unordered
  | types (failure : Stored.RenderFailure)
  | validation (failure : Validation.Failure)
  | files (fault : Files.Fault)
  /-- A number in a settings file has more digits than are converted, in one direction or the
  other. -/
  | settingTooLong

def Failure.message? : Failure → Option String
  | .storage error => some error.message
  | .dump (.parse error) => some error.message
  | .dump .lengthTooLong => none
  | .design error => some error.message
  | .snapshot failure => failure.message?
  | .unordered => none
  | .types (.design error) => some error.message
  | .types _ => none
  | .validation (.invalid error) => some error.message
  | .validation (.internal error) => some error.message
  | .validation (.unknownTable title) => some (Validation.unknownTableMessage title)
  | .validation _ => none
  | .files _ => none
  | .settingTooLong => none

end SchemaCompiler.Workspace
