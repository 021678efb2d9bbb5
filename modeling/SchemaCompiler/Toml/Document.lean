import SchemaCompiler.Association
import SchemaCompiler.Toml.Basic

/-!
The tree that a document builds up. Its sections are numbered, and a table knows from which
section on it is closed: a header closes its table at once, and a dotted key closes the tables on
its way when its section ends. Arrays of tables grow by headers only, and a finished value takes
nothing in.
-/

namespace SchemaCompiler.Toml

inductive Node where
  | value (value : Value)
  | table (closedFrom : Option Nat) (entries : List (String × Node))
  /-- An array of tables; what is put into it goes into the latest one. -/
  | tables (earlier : List (List (String × Node))) (latest : List (String × Node))

abbrev Entries := List (String × Node)

namespace Entries

open Association

def within? (change : Entries → Option Entries) : (path : List String) → Entries → Option Entries
  | [], entries => change entries
  | key :: path, entries =>
    match entries.lookup key with
    | none => (within? change path []).map fun inner => set key (.table none inner) entries
    | some (.table closed inner) =>
      (within? change path inner).map fun inner => set key (.table closed inner) entries
    | some (.tables earlier latest) =>
      (within? change path latest).map fun latest => set key (.tables earlier latest) entries
    | some (.value _) => none

def isClosed (number : Nat) : Option Nat → Bool
  | none => false
  | some first => first ≤ number

/-- Opens the table of a header, unless a header or a dotted key has defined it before. -/
def openTable? (number : Nat) (key : String) (entries : Entries) : Option Entries :=
  match entries.lookup key with
  | none => some (set key (.table (some number) []) entries)
  | some (.table closed inner) =>
    if isClosed number closed then none
    else some (set key (.table (some number) inner) entries)
  | _ => none

def addTable? (key : String) (entries : Entries) : Option Entries :=
  match entries.lookup key with
  | none => some (set key (.tables [] []) entries)
  | some (.tables earlier latest) => some (set key (.tables (earlier ++ [latest]) []) entries)
  | _ => none

def insert? (number : Nat) (value : Value) : (key : List String) → Entries → Option Entries
  | [], _ => none
  | [last], entries =>
    match entries.lookup last with
    | none => some (set last (.value value) entries)
    | some _ => none
  | key :: rest, entries =>
    match entries.lookup key with
    | none =>
      (insert? number value rest []).map fun inner =>
        set key (.table (some (number + 1)) inner) entries
    | some (.table closed inner) =>
      if isClosed number closed then none
      else (insert? number value rest inner).map fun inner =>
        set key (.table (some (closed.getD (number + 1))) inner) entries
    | _ => none

end Entries

mutual

def Node.toValue : Node → Value
  | .value v => v
  | .table _ entries => .table (entriesToValues entries)
  | .tables earlier latest => .array (tablesToValues earlier ++ [.table (entriesToValues latest)])

def entriesToValues : Entries → List (String × Value)
  | [] => []
  | (key, node) :: rest => (key, node.toValue) :: entriesToValues rest

def tablesToValues : List Entries → List Value
  | [] => []
  | entries :: rest => .table (entriesToValues entries) :: tablesToValues rest

end

/-- A document up to some line: its entries, and the table that keys are set in. -/
structure Document where
  entries : Entries := []
  header : List String := []
  sections : Nat := 0

namespace Document

def openTable? (d : Document) (path : List String) : Option Document := do
  let number := d.sections + 1
  let last ← path.getLast?
  let entries ← d.entries.within? (Entries.openTable? number last) path.dropLast
  return ⟨entries, path, number⟩

def addTable? (d : Document) (path : List String) : Option Document := do
  let last ← path.getLast?
  let entries ← d.entries.within? (Entries.addTable? last) path.dropLast
  return ⟨entries, path, d.sections + 1⟩

def insert? (d : Document) (key : List String) (value : Value) : Option Document := do
  let entries ← d.entries.within? (Entries.insert? d.sections value key) d.header
  return { d with entries }

def toEntries (d : Document) : List (String × Value) := entriesToValues d.entries

end Document

end SchemaCompiler.Toml
