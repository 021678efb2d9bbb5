import SchemaCompiler.Ddl.Reader

/-!
The moves of the reader. A line opens a table, closes the open one, changes it or leaves the
reading alone; what holds of a run of lines comes from these four.
-/

namespace SchemaCompiler.Ddl

open Text

inductive Moves (reading : Reading) (line : List Char) : Step → Prop
  | opens (opening : hasCreateTable false line = true) :
      Moves reading line (openTable reading line)
  | stays : Moves reading line { reading }
  | closes {title : String} {t : Table} (notes : List Note)
      (inside : reading.position = .inside title) (found : reading.database.table? title = some t)
      (closing : closesTable line = true) :
      Moves reading line { reading := { reading with position := .outside }, notes }
  | changes {title : String} {t : Table} (inside : reading.position = .inside title)
      (found : reading.database.table? title = some t) :
      Moves reading line
        { reading :=
            { reading with database := reading.database.update (readTableLine line t).table }
          notes := (readTableLine line t).notes
          failure := (readTableLine line t).failure }

theorem advance_moves (reading : Reading) (line : List Char) :
    Moves reading line (advance reading line) := by
  rw [advance]
  split
  · next opening => exact .opens opening
  split
  · exact .stays
  · next title inside =>
    split
    · exact .stays
    · next t found =>
      split
      · next closing => exact .closes _ inside found closing
      · split
        · exact .stays
        · exact .changes inside found

/-! Where a reading stands -/

/-- A reading that is inside a table, the last one of its database. -/
structure Within (database : String) (before : List Table) (t : Table) (reading : Reading) :
    Prop where
  position : reading.position = .inside t.title
  title : reading.database.title = database
  tables : reading.database.tables.entries = before ++ [t]

/-- A reading between tables. -/
structure Between (database : String) (tables : List Table) (reading : Reading) : Prop where
  position : reading.position = .outside
  title : reading.database.title = database
  tables : reading.database.tables.entries = tables

/-! What a given line does -/

variable {reading : Reading} {line : List Char} {title : String} {t after : Table}

theorem advance_opening (reading : Reading) (opens : hasCreateTable false line = true)
    (name : readTableName line = .ok title) :
    (advance reading line).failure = none ∧
      (advance reading line).reading = ⟨.inside title, reading.database.add { title }⟩ := by
  simp [advance, opens, openTable, name]

theorem advance_closing (quiet : hasCreateTable false line = false)
    (inside : reading.position = .inside title) (found : reading.database.table? title = some t)
    (closes : closesTable line = true) :
    (advance reading line).failure = none ∧
      (advance reading line).reading = { reading with position := .outside } := by
  simp [advance, quiet, inside, found, closes]

theorem advance_body (quiet : hasCreateTable false line = false)
    (inside : reading.position = .inside title) (found : reading.database.table? title = some t)
    (open_ : closesTable line = false) (present : line.isEmpty = false)
    (effect : readTableLine line t = { table := after }) :
    (advance reading line).failure = none ∧
      (advance reading line).reading =
        { reading with database := reading.database.update after } := by
  simp [advance, quiet, inside, found, open_, present, effect]

-- Only a line that opens a table can fail while it moves the position, and it fails before.
theorem failed_position (failed : (advance reading line).failure.isSome) :
    (advance reading line).reading.position = reading.position := by
  have moves := advance_moves reading line
  generalize advance reading line = step at failed moves
  cases moves with
  | opens opening =>
      rw [openTable] at failed ⊢
      split at failed
      · rfl
      · cases failed
  | stays => rfl
  | closes notes inside found closing => cases failed
  | changes inside found => rfl

/-! Runs -/

/-- Reads lines one after the other and goes on behind the ones that fail. -/
def feed (reading : Reading) (lines : List (List Char)) : Reading :=
  lines.foldl (fun reading line => (advance reading line).reading) reading

/-- A reading of lines, some of which may have failed, that began with an empty database. -/
def Reachable (reading : Reading) : Prop :=
  ∃ title lines, reading = feed { database := { title } } lines

/-- A dump that is read without failure leaves what its trimmed lines leave. -/
theorem read_lines_feed {number : Nat} {lines : List (List Char)} {db : Database}
    (read : (readLines reading number lines).outcome = .ok db) :
    db = (feed reading (lines.map trim)).database := by
  induction lines generalizing reading number with
  | nil =>
      rw [readLines] at read
      split at read
      · cases read
        rfl
      · cases read
        rfl
  | cons line rest ih =>
      simp only [readLines] at read
      split at read
      · cases read
      · exact ih read

end SchemaCompiler.Ddl
