import SchemaCompiler.Association
import SchemaCompiler.Files.Fault
import SchemaCompiler.Files.Path

/-!
File systems as values. Files and folders are kept by their location, which lists the names from
the root; a path leads to a location through folders only. Names are text: files that are named by
other bytes are left out.
-/

namespace SchemaCompiler.Files

abbrev Location := List String

structure RawBytes where
  bytes : ByteArray
  undecodable : ¬ bytes.IsValidUTF8

namespace RawBytes

theorem ext {a b : RawBytes} (same : a.bytes.data = b.bytes.data) : a = b := by
  cases a; cases b; cases ByteArray.ext same; rfl

instance : DecidableEq RawBytes := fun a b =>
  if same : a.bytes.data = b.bytes.data then isTrue (ext same)
  else isFalse fun whole => same (whole ▸ rfl)

end RawBytes

inductive Content where
  | text (text : String)
  | raw (bytes : RawBytes)
  deriving DecidableEq

instance : Coe String Content := ⟨.text⟩

def Content.decode : Content → Except Fault String
  | .text held => .ok held
  | .raw _ => .error .undecodable

inductive Node where
  | folder
  | file (content : Content)
  deriving DecidableEq

structure Tree where
  entries : List (Location × Node) := []

namespace Tree

def node? (t : Tree) : Location → Option Node
  | [] => some .folder
  | location => t.entries.lookup location

def set (t : Tree) (location : Location) (node : Node) : Tree :=
  ⟨Association.set location node t.entries⟩

theorem node?_set_self (t : Tree) {location : Location} (below : location ≠ []) (node : Node) :
    (t.set location node).node? location = some node := by
  cases location with
  | nil => exact absurd rfl below
  | cons => exact Association.lookup_set_self _ node t.entries

theorem node?_set_of_ne (t : Tree) {location other : Location} (apart : other ≠ location)
    (node : Node) : (t.set location node).node? other = t.node? other := by
  cases other with
  | nil => rfl
  | cons => exact Association.lookup_set_of_ne apart node t.entries

def maxNameSize : Nat := 255

def maxPathSize : Nat := 4095

def walk (t : Tree) (here : Location) : List String → Except Refusal Location
  | [] => .ok here
  | name :: rest =>
    match t.node? here with
    | none => .error .missing
    | some (.file _) => .error .notFolder
    | some .folder =>
      if name == ".." then t.walk here.dropLast rest
      else if maxNameSize < name.utf8ByteSize then .error .nameTooLong
      else t.walk (here ++ [name]) rest

def locate (t : Tree) (folder : Location) (p : Path) : Except Refusal Location :=
  if maxPathSize < p.toString.utf8ByteSize then .error .nameTooLong
  else t.walk (if p.anchor = .relative then folder else []) p.parts

def find (t : Tree) (folder : Location) (p : Path) : Except Refusal Node := do
  match t.node? (← t.locate folder p) with
  | some node => .ok node
  | none => .error .missing

def read (t : Tree) (folder : Location) (p : Path) : Except Refusal Content := do
  match ← t.find folder p with
  | .file content => .ok content
  | .folder => .error .isFolder

def write (t : Tree) (folder : Location) (p : Path) (text : String) : Except Refusal Tree := do
  let location ← t.locate folder p
  match t.node? location with
  | some .folder => .error .isFolder
  | _ => .ok (t.set location (.file text))

def makeFolder (t : Tree) (folder : Location) (p : Path) : Except Refusal Tree := do
  let location ← t.locate folder p
  match t.node? location with
  | some _ => .error .alreadyThere
  | none => .ok (t.set location .folder)

def isFolder (t : Tree) (folder : Location) (p : Path) : Bool :=
  match t.find folder p with
  | .ok .folder => true
  | _ => false

def ensureFolder (t : Tree) (folder : Location) (p : Path) : Except Refusal Tree :=
  match t.makeFolder folder p with
  | .ok made => .ok made
  | .error refusal => if t.isFolder folder p then .ok t else .error refusal

/-- Makes a folder, and the folders above it as far as they are missing. The path is given from
its end; folders made before a failure stay. -/
def makeFoldersFrom (t : Tree) (folder : Location) (anchor : Anchor) :
    List String → Tree × Except Refusal Unit
  | [] =>
    match t.ensureFolder folder ⟨anchor, []⟩ with
    | .ok made => (made, .ok ())
    | .error refusal => (t, .error refusal)
  | last :: above =>
    let path : Path := ⟨anchor, (last :: above).reverse⟩
    match t.ensureFolder folder path with
    | .ok made => (made, .ok ())
    | .error .missing =>
      match t.makeFoldersFrom folder anchor above with
      | (made, .error refusal) => (made, .error refusal)
      | (made, .ok ()) =>
        match made.ensureFolder folder path with
        | .ok all => (all, .ok ())
        | .error refusal => (made, .error refusal)
    | .error refusal => (t, .error refusal)

def makeFolders (t : Tree) (folder : Location) (p : Path) : Tree × Except Refusal Unit :=
  t.makeFoldersFrom folder p.anchor p.parts.reverse

/-- Whether a path leads to a file. Only a name that is too long is no answer. -/
def isFile (t : Tree) (folder : Location) (p : Path) : Except Refusal Bool :=
  match t.find folder p with
  | .ok (.file _) => .ok true
  | .ok .folder => .ok false
  | .error .nameTooLong => .error .nameTooLong
  | .error _ => .ok false

end Tree

end SchemaCompiler.Files
