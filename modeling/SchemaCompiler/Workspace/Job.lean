import SchemaCompiler.Files.Tree
import SchemaCompiler.Log
import SchemaCompiler.Workspace.Failure

/-!
Jobs: work that uses files and leaves notes. A job runs in any monad that offers both; a
`Session` offers them on a file system that is a value.
-/

namespace SchemaCompiler.Workspace

open Files

class MonadFiles (m : Type → Type) where
  read : Path → m (Except Fault String)
  write : Path → String → m (Except Fault Unit)
  makeFolders : Path → m (Except Fault Unit)
  isFile : Path → m (Except Fault Bool)

class MonadNotes (m : Type → Type) where
  leave : Note → m Unit

export MonadNotes (leave)

abbrev Job (m : Type → Type) := ExceptT Failure m

variable {m : Type → Type} [Monad m]

namespace Job

/-- Goes on with a result; a refusal is explained, any other fault ends the job as it is. -/
def explain {α : Type} (cause : Refusal → StorageError) : Except Fault α → Job m α
  | .ok a => pure a
  | .error (.refused refusal) => throw (.storage (cause refusal))
  | .error fault => throw (.files fault)

def orFail {ε α : Type} (wrap : ε → Failure) : Except ε α → Job m α
  | .ok a => pure a
  | .error e => throw (wrap e)

def outcome {α : Type} (job : Job m α) : Job m (Except Failure α) := ExceptT.lift job.run

def note [MonadNotes m] (n : Note) : Job m Unit := ExceptT.lift (leave n)

variable [MonadFiles m]

def read (path : Path) (cause : Refusal → StorageError) : Job m String := do
  explain cause (← ExceptT.lift (MonadFiles.read path))

def readText (path : Path) (cause : Refusal → StorageError) : Job m String := do
  let text ← read path cause
  return String.ofList (Text.unifyLineEnds text.toList)

def write (path : Path) (text : String) (cause : Refusal → StorageError) : Job m Unit := do
  explain cause (← ExceptT.lift (MonadFiles.write path text))

def makeFolders (path : Path) (cause : Refusal → StorageError) : Job m Unit := do
  explain cause (← ExceptT.lift (MonadFiles.makeFolders path))

def isFile (path : Path) : Job m Bool := do
  orFail .files (← ExceptT.lift (MonadFiles.isFile path))

end Job

/-! Sessions -/

structure World where
  tree : Tree := {}
  folder : Location := []
  notes : List Note := []

abbrev Session := StateM World

namespace World

def checked {α : Type} (p : Path) (result : Except Refusal α) : Except Fault α :=
  if p.hasNul then .error .nulInPath else result.mapError .refused

def read (w : World) (p : Path) : Except Fault String := do
  (← checked p (w.tree.read w.folder p)).decode

def write (w : World) (p : Path) (text : String) : Except Fault Unit × World :=
  match checked p (w.tree.write w.folder p text) with
  | .ok tree => (.ok (), { w with tree })
  | .error fault => (.error fault, w)

def makeFolders (w : World) (p : Path) : Except Fault Unit × World :=
  if p.hasNul then (.error .nulInPath, w)
  else
    let (tree, result) := w.tree.makeFolders w.folder p
    (result.mapError .refused, { w with tree })

/-- No file has a path with a zero character. -/
def isFile (w : World) (p : Path) : Except Fault Bool :=
  if p.hasNul then .ok false else (w.tree.isFile w.folder p).mapError .refused

end World

instance : MonadFiles Session where
  read p := do return (← get).read p
  write p text := modifyGet (·.write p text)
  makeFolders p := modifyGet (·.makeFolders p)
  isFile p := do return (← get).isFile p

instance : MonadNotes Session where
  leave n := modify fun w => { w with notes := w.notes ++ [n] }

end SchemaCompiler.Workspace
