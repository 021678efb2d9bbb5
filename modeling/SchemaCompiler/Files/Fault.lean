/-!
Why a file or folder cannot be used.
-/

namespace SchemaCompiler.Files

inductive Refusal where
  | missing
  | isFolder
  | notFolder
  | alreadyThere
  | nameTooLong
  | other (reason : String)
  deriving DecidableEq, Repr

def Refusal.message : Refusal → String
  | .missing => "No such file or directory"
  | .isFolder => "Is a directory"
  | .notFolder => "Not a directory"
  | .alreadyThere => "File exists"
  | .nameTooLong => "File name too long"
  | .other reason => reason

inductive Fault where
  | refused (refusal : Refusal)
  /-- The path holds a zero character, so that the file system is not even asked. -/
  | nulInPath
  | undecodable
  deriving DecidableEq, Repr

end SchemaCompiler.Files
