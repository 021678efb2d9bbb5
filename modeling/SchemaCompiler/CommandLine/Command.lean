import SchemaCompiler.CommandLine.Request
import SchemaCompiler.Model.Source
import SchemaCompiler.Validation.Payload
import SchemaCompiler.Workspace.Setup

/-!
Commands: what each of them does, and what it writes to standard output.
-/

namespace SchemaCompiler.CommandLine

open Files Workspace

inductive CommandError where
  | noSchemaFile (path : Path)
  | wrongExtension (path : Path)
  | payloadNotFound (path : Path) (refusal : Refusal)
  | payloadNotJson (path : Path)
  | failed (failure : Failure)

def extensions : List String := [".ddl", ".sql", ".txt"]

/-- What the user is told; a failure without a message is not foreseen. -/
def CommandError.message? : CommandError → Option String
  | .noSchemaFile path => some s!"Schema file does not exist: {path}"
  | .wrongExtension path =>
    let known := Text.joinWith ", " extensions
    some s!"Schema file {path} has invalid extension, expected one of: {known}"
  | .payloadNotFound path refusal => some s!"Cannot read payload {path}: {refusal.message}"
  | .payloadNotJson path => some s!"Cannot read payload {path}: it is not JSON"
  | .failed failure => failure.message?

variable {m : Type → Type} [Monad m] [MonadFiles m] [MonadNotes m]

abbrev Action (m : Type → Type) := ExceptT CommandError m

def ofJob {α : Type} (job : Job m α) : Action m α := do
  match ← ExceptT.lift job.run with
  | .ok a => return a
  | .error failure => throw (.failed failure)

def ofDesign {α : Type} : Except InternalError α → Action m α
  | .ok a => return a
  | .error e => throw (.failed (.design e))

def checkDump (path : Path) : Action m Unit := do
  if !(← ofJob (Job.isFile path)) then throw (.noSchemaFile path)
  if !extensions.contains (Text.lower path.suffix) then throw (.wrongExtension path)

def render (db : Database) : Format → Except InternalError String
  | .json => .ok (Snapshot.textOf (Stored.ofDatabase db))
  | .typescript => do
    let files ← TypeScript.renderDatabase db
    return Text.joinWith "\n" (files.map (·.2))
  | .python => Model.source db

def readPayload (path : Path) : Action m Json := do
  match ← ExceptT.lift (MonadFiles.read path) with
  | .error (.refused refusal) => throw (.payloadNotFound path refusal)
  | .error fault => throw (.failed (.files fault))
  | .ok text =>
    match Json.read (Text.unifyLineEnds text.toList) with
    | .ok payload => return payload
    | .error _ => throw (.payloadNotJson path)

/-- Text that stands raw on standard output has to be encodable. -/
def printed (values : Json) : Except Validation.Failure String :=
  if values.isPlain then .ok (values.indentedUnicode ++ "\n") else .error .unencodable

def run [Pattern.CharacterNames] : Command → Action m String
  | .schema dump format => do
    checkDump dump
    let db ← ofJob (readSchema dump)
    ofDesign (render db format)
  | .export dump folder => do
    checkDump dump
    let db ← ofJob (readSchema dump)
    let _ ← ofJob (writeTypes (Stored.ofDatabase db) folder)
    return ""
  | .validate dump table payload stored => do
    checkDump dump
    let document ← readPayload payload
    let db ← ofJob (readSchema dump)
    match (db.validate table document (!stored)).bind (printed ∘ serialize) with
    | .ok output => return output
    | .error failure => throw (.failed (.validation failure))
  | .init settings dump reload => do
    let _ ← ofJob (init settings (dump.map Path.toString) reload)
    return ""

/-- How a run ends: a foreseen error leaves the code one and writes nothing. -/
structure Ending where
  code : Nat
  output : String

def ending : Except CommandError String → Except CommandError Ending
  | .ok output => .ok ⟨0, output⟩
  | .error e => if e.message?.isSome then .ok ⟨1, ""⟩ else .error e

end SchemaCompiler.CommandLine
