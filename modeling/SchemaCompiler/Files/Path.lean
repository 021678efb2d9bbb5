import SchemaCompiler.Text.Lines

/-!
Paths as written. Nothing is looked up: slashes and single dots that say nothing are dropped, and
a step to the parent folder is kept.
-/

namespace SchemaCompiler.Files

open Text

inductive Anchor where
  | relative
  | root
  | doubleRoot
  deriving DecidableEq, Repr

structure Path where
  anchor : Anchor
  parts : List String
  deriving DecidableEq, Repr

namespace Path

def anchorOf (text : List Char) : Anchor :=
  match (text.takeWhile (· == '/')).length with
  | 0 => .relative
  | 2 => .doubleRoot
  | _ => .root

def ofString (text : String) : Path where
  anchor := anchorOf text.toList
  parts := ((runsOutside (· == '/') [] text.toList).map String.ofList).filter (· != ".")

instance : Coe String Path := ⟨ofString⟩

def toString (p : Path) : String :=
  let body := joinWith "/" p.parts
  match p.anchor with
  | .relative => if p.parts.isEmpty then "." else body
  | .root => "/" ++ body
  | .doubleRoot => "//" ++ body

instance : ToString Path := ⟨toString⟩

/-- A path below another. One that starts at the root stands for itself. -/
def join (folder name : Path) : Path :=
  match name.anchor with
  | .relative => { folder with parts := folder.parts ++ name.parts }
  | _ => name

def parent (p : Path) : Path := { p with parts := p.parts.dropLast }

def suffix (p : Path) : String :=
  match cutAtLast? ['.'] (p.parts.getLast?.getD "").toList with
  | some (stem, rest) =>
    if stem.isEmpty || rest.isEmpty then "" else String.ofList ('.' :: rest)
  | none => ""

def hasNul (p : Path) : Bool := p.parts.any fun part => part.toList.contains '\x00'

end Path

end SchemaCompiler.Files
