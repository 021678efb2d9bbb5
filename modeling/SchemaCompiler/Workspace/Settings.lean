import SchemaCompiler.Json.Writer
import SchemaCompiler.Toml.Reader
import SchemaCompiler.Workspace.Job

/-!
Settings: where the schema dump, the snapshot and the generated types lie. They are kept in a TOML
file, each as a string.
-/

namespace SchemaCompiler.Workspace

open Files

structure Settings where
  schemaPath : String := "./schema.sql"
  snapshotPath : String := "./database.json"
  typePath : String := "./types/"
  deriving DecidableEq, Repr

namespace Settings

def withSchema (schemaPath : Option String) (settings : Settings) : Settings :=
  match schemaPath with
  | some schemaPath => { settings with schemaPath }
  | none => settings

def defaultPath : Path := "./ddl-toolkit.toml"

def schemaKey : String := "schema_path"

def snapshotKey : String := "snapshot_path"

def typeKey : String := "type_path"

def maxShownDigits : Nat := 4300

mutual

def isShowable : Toml.Value → Bool
  | .integer n => n.natAbs < Nat.pow 10 maxShownDigits
  | .array items => areShowable items
  | .table entries => haveShowable entries
  | _ => true

def areShowable : List Toml.Value → Bool
  | [] => true
  | item :: rest => isShowable item && areShowable rest

def haveShowable : List (String × Toml.Value) → Bool
  | [] => true
  | (_, value) :: rest => isShowable value && haveShowable rest

end

def stringAt (path : Path) (entries : List (String × Toml.Value)) (key default : String) :
    Except Failure String :=
  match entries.lookup key with
  | none => .ok default
  | some (.string s) => .ok s
  | some value =>
    if isShowable value then .error (.storage (.settingNoString path key value))
    else .error .settingTooLong

/-- The entries of the settings' own table, or those of the document when it has none. -/
def entriesOf (path : Path) (document : List (String × Toml.Value)) :
    Except Failure (List (String × Toml.Value)) :=
  match document.lookup settingsTable with
  | none => .ok document
  | some (.table entries) => .ok entries
  | some _ => .error (.storage (.settingsNoTable path))

/-- Settings that are missing keep their defaults; entries of other keys do not count. -/
def ofDocument (path : Path) (document : List (String × Toml.Value)) : Except Failure Settings := do
  let entries ← entriesOf path document
  let defaults : Settings := {}
  return {
    schemaPath := ← stringAt path entries schemaKey defaults.schemaPath
    snapshotPath := ← stringAt path entries snapshotKey defaults.snapshotPath
    typePath := ← stringAt path entries typeKey defaults.typePath }

def ofText (path : Path) (text : String) : Except Failure Settings :=
  match Toml.read text with
  | .ok document => ofDocument path document
  | .error .malformed => .error (.storage (.settingsMalformed path))
  | .error .integerTooLong => .error .settingTooLong

def toEntries (s : Settings) : List (String × Json) := [
  (schemaKey, .string s.schemaPath),
  (snapshotKey, .string s.snapshotPath),
  (typeKey, .string s.typePath)]

/-- A table with one entry a line. Strings are written as in JSON, whose escapes TOML knows. -/
def fileText (entries : List (String × Json)) : String :=
  let header := "[" ++ settingsTable ++ "]\n"
  entries.foldl (fun text (key, value) => text ++ key ++ " = " ++ value.compact ++ "\n") header

variable {m : Type → Type} [Monad m] [MonadFiles m]

def load (path : Path) : Job m Settings := do
  Job.orFail id (ofText path (← Job.read path (.notFound path)))

def saveEntries (entries : List (String × Json)) (path : Path) : Job m Path := do
  Job.write path (fileText entries) (.settingsNotWritten path)
  return path

def save (settings : Settings) (path : Path) : Job m Path := saveEntries settings.toEntries path

/-- A file name that is empty counts as none. -/
def givenPath? (name : Option String) : Option Path :=
  match name with
  | none => none
  | some name => if name.isEmpty then none else some (Path.ofString name)

/-- The settings of the given file, or else of the default file, which is written when there is
none yet. -/
def loadOrCreate [MonadNotes m] (file : Option Path) : Job m Settings := do
  match file with
  | some path => load path
  | none =>
    if ← Job.isFile defaultPath then load defaultPath
    else
      let path ← save {} defaultPath
      Job.note (.info s!"Wrote default config to {path}")
      return {}

def resolve [MonadNotes m] (file : Option Path) (schemaPath : Option String) : Job m Settings :=
  return (← loadOrCreate file).withSchema schemaPath

end Settings

end SchemaCompiler.Workspace
