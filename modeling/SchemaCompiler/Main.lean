import SchemaCompiler.CommandLine.Command

/-!
The program: the command line on the files of the computer.
-/

namespace SchemaCompiler

open Files Workspace

/-- A program notes what is at least as severe as its threshold. -/
abbrev Program := ReaderT Level IO

def refusalOf : IO.Error → Refusal
  | .noFileOrDirectory .. => .missing
  | .alreadyExists .. => .alreadyThere
  | .inappropriateType _ code _ => if code == 21 then .isFolder else .notFolder
  | .invalidArgument _ 36 _ => .nameTooLong
  | e => .other (toString e)

def attempt {α : Type} (p : Path) (action : String → IO α) : IO (Except Fault α) := do
  if p.hasNul then return .error .nulInPath
  try return .ok (← action p.toString)
  catch e => return .error (.refused (refusalOf e))

def decoded (bytes : ByteArray) : Except Fault String :=
  match String.fromUTF8? bytes with
  | some text => .ok text
  | none => .error .undecodable

instance : MonadFiles Program where
  read p := return (← attempt p fun name => IO.FS.readBinFile name).bind decoded
  write p text := attempt p fun name => IO.FS.writeFile name text
  makeFolders p := attempt p fun name => IO.FS.createDirAll name
  isFile p := do
    match ← attempt p fun name => IO.FS.readBinFile name with
    | .ok _ => return .ok true
    | .error (.refused .nameTooLong) => return .error (.refused .nameTooLong)
    | .error _ => return .ok false

instance : MonadNotes Program where
  leave n := do
    if n.isAtLeast (← read) then IO.eprintln n.message

end SchemaCompiler

open SchemaCompiler
open scoped SchemaCompiler.Pattern.Unnamed

def main (texts : List String) : IO UInt32 := do
  match CommandLine.readRequest texts with
  | .error e =>
    IO.eprintln e.message
    return 1
  | .ok request =>
    let threshold := if request.verbose then Level.debug else Level.warning
    let action : CommandLine.Action Program String := CommandLine.run request.command
    match ← action.run.run threshold with
    | .ok output =>
      IO.print output
      return 0
    | .error e =>
      let message := e.message?.getD "unforeseen failure"
      IO.eprintln s!"Error: {message}"
      return 1
