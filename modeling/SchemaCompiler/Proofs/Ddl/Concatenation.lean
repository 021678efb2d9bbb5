import Mathlib.Control.Monad.Basic
import SchemaCompiler.Proofs.Ddl.Invariant
import SchemaCompiler.Proofs.Schema.Database

/-!
Dumps one behind the other. What stands before a table never changes how its lines are read, so
reading goes on behind a first dump as it would from the start, with the tables of the first dump
in front of the others.
-/

namespace SchemaCompiler.Ddl

open Text Outcome

/-- The second reading has the tables of the first one added to the given database. -/
structure Behind (before : Database) (small large : Reading) : Prop where
  position : large.position = small.position
  database : large.database = small.database.tables.entries.foldl Database.add before

section Steps

variable {before : Database} {small large : Reading}

theorem behind_entries (behind : Behind before small large) :
    large.database.tables.entries =
      before.tables.entries.filter (fun t => !small.database.tables.contains t.title) ++
        small.database.tables.entries := by
  rw [behind.database, Database.foldl_add_entries]

theorem behind_open (behind : Behind before small large) (line : List Char) :
    (openTable large line).failure = (openTable small line).failure ∧
      Behind before (openTable small line).reading (openTable large line).reading := by
  rw [openTable, openTable]
  cases readTableName line with
  | error e => exact ⟨rfl, behind⟩
  | ok title =>
      refine ⟨rfl, rfl, ?_⟩
      rw [behind.database, Database.foldl_add_more]

theorem behind_within {title : String} {others : List Table} {t : Table}
    (behind : Behind before small large) (within : Within title others t small) :
    Within before.title
      (before.tables.entries.filter (fun u => !small.database.tables.contains u.title) ++ others) t
      large := by
  refine ⟨behind.position.trans within.position, ?_, ?_⟩
  · rw [behind.database, Database.foldl_add_tables]
  · rw [behind_entries behind, within.tables, List.append_assoc]

/-- The open table is the last one in either reading, and a change keeps its title. -/
theorem behind_update {title : String} {others : List Table} {t last : Table}
    (behind : Behind before small large) (within : Within title others t small)
    (titled : last.title = t.title) :
    Behind before { small with database := small.database.update last }
      { large with database := large.database.update last } := by
  have changed := within_update within titled
  have larger := within_update (behind_within behind within) titled
  have same : (small.database.update last).tables.titles = small.database.tables.titles := by
    rw [Catalog.titles, Catalog.titles, within.tables, show
      (small.database.update last).tables.entries = others ++ [last] from changed.tables]
    simp [Titled.title, titled]
  have tables : (large.database.update last).tables =
      (small.database.update last).tables.entries.foldl Catalog.putLast before.tables := by
    apply Catalog.ext
    rw [Catalog.foldl_put_last _ _ (small.database.update last).tables.distinct, ← Catalog.titles,
      same, show (small.database.update last).tables.entries = others ++ [last] from changed.tables,
      show (large.database.update last).tables.entries = _ from larger.tables, List.append_assoc]
    rfl
  refine ⟨behind.position, ?_⟩
  rw [Database.foldl_add_tables, ← tables, ← larger.title]

/-- A line does to the larger reading what it does to the smaller one. -/
theorem advance_behind (sound : SoundReading small) (behind : Behind before small large)
    (line : List Char) :
    (advance large line).failure = (advance small line).failure ∧
      Behind before (advance small line).reading (advance large line).reading := by
  rw [advance, advance, behind.position]
  split
  · exact behind_open behind line
  split
  · exact ⟨rfl, behind⟩
  · next title inside =>
    obtain ⟨t, stored, titled, last⟩ := sound.opened title inside
    obtain ⟨others, within⟩ := sound_within sound inside stored
    have found : large.database.table? title = some t := by
      rw [← titled]
      exact Catalog.find_entry (by rw [(behind_within behind within).tables]; simp)
    rw [found, stored]
    dsimp only
    split
    · exact ⟨rfl, rfl, behind.database⟩
    split
    · exact ⟨rfl, behind⟩
    · have titled : (readTableLine line t).table.title = t.title :=
        (read_table_line_keeps (sound.database t (List.mem_of_getLast? last)).2 line).1
      exact ⟨rfl, rfl, (behind_update behind within titled).database⟩

/-! Runs -/

/-- The failure as it is told when so many more lines stand in front. -/
def Failure.later (count : Nat) : Failure → Failure
  | .parse e => .parse { e with number := e.number.map (· + count) }
  | .lengthTooLong => .lengthTooLong

theorem read_lines_nil (reading : Reading) (number : Nat) :
    (readLines reading number []).outcome = .ok reading.database := by
  rw [readLines]
  split
  · rfl
  · rfl

theorem read_lines_behind (sound : SoundReading small) (behind : Behind before small large)
    (number count : Nat) (lines : List (List Char)) :
    (readLines large (number + count) lines).outcome =
      match (readLines small number lines).outcome with
      | .ok more => .ok (more.tables.entries.foldl Database.add before)
      | .error failure => .error (failure.later count) := by
  induction lines generalizing small large number with
  | nil => rw [read_lines_nil, read_lines_nil, behind.database]
  | cons line rest ih =>
      obtain ⟨same, next⟩ := advance_behind sound behind (trim line)
      rw [readLines, readLines, same]
      cases failed : (advance small (trim line)).failure with
      | some failure =>
          cases failure with
          | parse e => rfl
          | lengthTooLong => rfl
      | none =>
          have tail := ih (advance_sound sound (trim line)) next (number + 1)
          rw [Nat.add_right_comm] at tail
          exact tail

end Steps

/-- Reading goes on behind the first lines, unless one of them fails. -/
theorem read_lines_append (reading : Reading) (number : Nat) (front back : List (List Char)) :
    (readLines reading number (front ++ back)).outcome =
      match (readLines reading number front).outcome with
      | .ok _ => (readLines (feed reading (front.map trim)) (number + front.length) back).outcome
      | .error failure => .error failure := by
  induction front generalizing reading number with
  | nil =>
      rw [read_lines_nil]
      rfl
  | cons line rest ih =>
      rw [List.cons_append, readLines, readLines]
      cases failed : (advance reading (trim line)).failure with
      | some failure => rfl
      | none =>
          have tail := ih (advance reading (trim line)).reading (number + 1)
          rw [Nat.add_right_comm] at tail
          exact tail

/-- A failure is told with the line that failed and its number. -/
theorem read_lines_error {reading : Reading} {number : Nat} {lines : List (List Char)}
    {failure : Failure} (failed : (readLines reading number lines).outcome = .error failure) :
    ∃ place line, ∃ cause : Failure, lines[place]? = some line ∧
      failure = cause.at (number + place) line := by
  induction lines generalizing reading number with
  | nil =>
      rw [read_lines_nil] at failed
      cases failed
  | cons line rest ih =>
      rw [readLines] at failed
      cases stopped : (advance reading (trim line)).failure with
      | some cause =>
          rw [stopped] at failed
          cases failed
          exact ⟨0, line, cause, rfl, rfl⟩
      | none =>
          rw [stopped] at failed
          obtain ⟨place, found, cause, there, told⟩ := ih failed
          exact ⟨place + 1, found, cause, there, by rw [told, Nat.add_right_comm, Nat.add_assoc]⟩

/-! Whole dumps -/

theorem parse_schema_eq (schema title : String) : parseSchema schema title =
    (readLines { database := { title } } 1 (splitLines schema.toList)).outcome := rfl

/-- A dump that is not read fails at one of its lines. -/
theorem parse_error_place {schema title : String} {e : ParseError}
    (failed : parseSchema schema title = .error (.parse e)) :
    ∃ place line, (splitLines schema.toList)[place]? = some line ∧ e.number = some (place + 1) ∧
      e.line = String.ofList line := by
  rw [parse_schema_eq] at failed
  obtain ⟨place, line, cause, there, told⟩ := read_lines_error failed
  rw [Nat.add_comm] at told
  cases cause with
  | parse inner =>
      cases told
      exact ⟨place, line, there, rfl, rfl⟩
  | lengthTooLong => cases told

/-- What the lines of a dump leave. -/
def endOf (schema title : String) : Reading :=
  feed { database := { title } } ((splitLines schema.toList).map trim)

/-- A dump that is the first one followed by the second one fails as the first one does. When the
first one is read and ends between tables, the whole is read exactly when the second one is: as
the first database with the tables of the second one added, or with the failure of the second one
so many lines later. -/
theorem parse_concatenated (title other : String) {first second whole : String}
    (lines : splitLines whole.toList = splitLines first.toList ++ splitLines second.toList) :
    (∀ failure, parseSchema first title = .error failure →
      parseSchema whole title = .error failure) ∧
    ∀ db, parseSchema first title = .ok db → (endOf first title).position = .outside →
      (∀ more, parseSchema second other = .ok more →
        parseSchema whole title = .ok (more.tables.entries.foldl Database.add db) ∧
        (more.tables.entries.foldl Database.add db).tables.entries =
          db.tables.entries.filter (fun t => !more.tables.contains t.title) ++
            more.tables.entries) ∧
      (∀ e, parseSchema second other = .error (.parse e) →
        ∃ place line, (splitLines second.toList)[place]? = some line ∧
          e.number = some (place + 1) ∧ e.line = String.ofList line ∧
          parseSchema whole title = .error (.parse
            { e with number := some (place + 1 + (splitLines first.toList).length) })) ∧
      (parseSchema second other = .error .lengthTooLong →
        parseSchema whole title = .error .lengthTooLong) := by
  have parts := read_lines_append { database := { title } } 1 (splitLines first.toList)
    (splitLines second.toList)
  rw [← lines, ← parse_schema_eq, ← parse_schema_eq] at parts
  refine ⟨fun failure failed => ?_, fun db read outside => ?_⟩
  · rw [parts, failed]
  · have behind : Behind db { database := { title := other } } (endOf first title) :=
      ⟨outside, (read_lines_feed read).symm⟩
    have run := read_lines_behind (sound_start other) behind 1 (splitLines first.toList).length
      (splitLines second.toList)
    rw [← parse_schema_eq] at run
    rw [read] at parts
    have outcome := parts.trans run
    refine ⟨fun more added => ?_, fun e failed => ?_, fun failed => ?_⟩
    · rw [added] at outcome
      exact ⟨outcome, Database.foldl_add_entries db more⟩
    · obtain ⟨place, line, there, number, text⟩ := parse_error_place failed
      rw [failed] at outcome
      have later : Failure.later (splitLines first.toList).length (.parse e) =
          .parse { e with number := some (place + 1 + (splitLines first.toList).length) } := by
        simp [Failure.later, number]
      exact ⟨place, line, there, number, text, outcome.trans (congrArg Except.error later)⟩
    · rw [failed] at outcome
      exact outcome

def firstDump : String := "CREATE TABLE `a` (\n`x` int\n);\nCREATE TABLE `b` (\n`y` int\n);\n"

def secondDump : String := "CREATE TABLE `a` (\n`z` json\n"

def brokenDump : String := "CREATE TABLE `c` (\n`z` blob\n"

def brokenError : ParseError :=
  { cause := .unknownType "blob", line := "`z` blob", number := some 2 }

/-- A table that comes again moves behind the others, and the second line of the dump that fails
is the eighth one of both. -/
theorem parse_concatenated_shop :
    (∃ db more, parseSchema firstDump "shop" = .ok db ∧ parseSchema secondDump "more" = .ok more ∧
      parseSchema (firstDump ++ secondDump) "shop" =
        .ok (more.tables.entries.foldl Database.add db) ∧
      (more.tables.entries.foldl Database.add db).tables.titles = ["b", "a"]) ∧
    parseSchema brokenDump "more" = .error (.parse brokenError) ∧
      parseSchema (firstDump ++ brokenDump) "shop" =
        .error (.parse { brokenError with number := some 8 }) := by
  obtain ⟨db, read⟩ :=
    exists_ok (by decide +kernel : (parseSchema firstDump "shop").toOption.isSome)
  obtain ⟨more, added⟩ :=
    exists_ok (by decide +kernel : (parseSchema secondDump "more").toOption.isSome)
  have outside : (endOf firstDump "shop").position = .outside := by decide +kernel
  have lines (second : String) (split : splitLines (firstDump ++ second).toList =
      splitLines firstDump.toList ++ splitLines second.toList) :=
    (parse_concatenated "shop" "more" split).2 db read outside
  have both := (lines secondDump (by decide +kernel)).1 more added
  have broken : parseSchema brokenDump "more" = .error (.parse brokenError) := by decide +kernel
  obtain ⟨place, _, _, number, _, told⟩ := (lines brokenDump (by decide +kernel)).2.1 _ broken
  refine ⟨⟨db, more, read, added, both.1, ?_⟩, broken, ?_⟩
  · have titles : ((parseSchema (firstDump ++ secondDump) "shop").toOption.map
        fun db => db.tables.titles) = some ["b", "a"] := by decide +kernel
    rw [both.1] at titles
    exact Option.some.inj titles
  · obtain rfl : place = 1 := by simpa [brokenError] using number.symm
    rwa [show (splitLines firstDump.toList).length = 6 by decide +kernel] at told

end SchemaCompiler.Ddl
