import SchemaCompiler.Proofs.Ddl.CapitalLines
import SchemaCompiler.Proofs.Ddl.QuotedNames

/-!
Dumps that differ in the case of their letters. Every line of one does what the line of the other
does, so both are read to the same database or neither is read; only the names that are kept as
they are written have to agree, those of tables and those that foreign keys refer to. The name of
a table is looked for at the start of a word, and stands outside the pairs of backticks when the
backtick there closes one.
-/

namespace SchemaCompiler.Ddl

open Text

/-! Lines that open and close tables -/

theorem drop_keyword_capitals (word text : List Char) :
    dropKeyword? word (text.map asciiUpperChar) =
      (dropKeyword? word text).map (List.map asciiUpperChar) := by
  have twice : asciiUpperChar ∘ asciiUpperChar = asciiUpperChar := funext ascii_upper_char_capital
  simp only [dropKeyword?, ← List.map_take, ← List.map_drop, List.length_map, List.map_map, twice]
  split
  · rfl
  · rfl

theorem starts_create_table_capitals (text : List Char) :
    startsCreateTable (text.map asciiUpperChar) = startsCreateTable text := by
  rw [startsCreateTable, drop_keyword_capitals, startsCreateTable]
  cases dropKeyword? "CREATE".toList text with
  | none => rfl
  | some rest =>
      cases rest with
      | nil => rfl
      | cons c more =>
          have gap := drop_while_capitals is_blank_capital (c :: more)
          rw [List.map_cons] at gap
          simp only [Option.map_some, List.map_cons, is_blank_capital, gap, drop_keyword_capitals]
          cases dropKeyword? "TABLE".toList ((c :: more).dropWhile isBlank) with
          | none => rfl
          | some behind =>
              cases behind with
              | nil => rfl
              | cons d later => simp

theorem has_create_table_capitals (inWord : Bool) (text : List Char) :
    hasCreateTable inWord (text.map asciiUpperChar) = hasCreateTable inWord text := by
  induction text generalizing inWord with
  | nil => rfl
  | cons c rest ih =>
      have starts := starts_create_table_capitals (c :: rest)
      rw [List.map_cons] at starts ⊢
      rw [hasCreateTable, hasCreateTable, starts, is_word_char_capital, ih]

theorem closes_table_capitals (line : List Char) :
    closesTable (line.map asciiUpperChar) = closesTable line := by
  rw [closesTable, head_capitals_beq rfl, contains_capitals rfl, closesTable]

/-! One line -/

/-- The lines agree where they are kept as they are written: inside the backticks of a line that
opens a table, and in the first name behind `REFERENCES` of a foreign key. -/
structure Agreeing (line other : List Char) : Prop where
  opened : hasCreateTable false line = true → SamePaired line other
  referred : startsForeignKey line = true → referencedName? line = referencedName? other

/-- The reading that a line leaves, if it does not fail. -/
def Step.reading? (step : Step) : Option Reading :=
  if step.failure.isSome then none else some step.reading

theorem open_table_named (reading : Reading) (line : List Char) :
    (openTable reading line).reading? =
      (readTableName line).toOption.map fun title =>
        ⟨.inside title, reading.database.add { title }⟩ := by
  rw [openTable]
  cases readTableName line with
  | error e => rfl
  | ok title => rfl

/-- What a line does to the open table is what it does to the reading. -/
theorem changed_reading (reading : Reading) (effect : TableEffect) :
    Step.reading?
      { reading := { reading with database := reading.database.update effect.table }
        notes := effect.notes
        failure := effect.failure } =
      effect.table?.map fun t => { reading with database := reading.database.update t } := by
  rw [Step.reading?, TableEffect.table?]
  split
  · rfl
  · rfl

theorem advance_recased (reading : Reading) {line other : List Char}
    (recased : Recased line other) (agreeing : Agreeing line other)
    (pairs : hasCreateTable false line = true → OpensPairs line) :
    (advance reading line).reading? = (advance reading other).reading? := by
  have opening : hasCreateTable false line = hasCreateTable false other := by
    rw [← has_create_table_capitals, recased, has_create_table_capitals]
  have closing : closesTable line = closesTable other := by
    rw [← closes_table_capitals, recased, closes_table_capitals]
  have empty := recased_is_empty recased
  rw [advance, advance, ← opening]
  split
  · next opens =>
    rw [open_table_named, open_table_named,
      read_table_name_recased recased (same_names_of_paired (pairs opens) (agreeing.opened opens))]
  · split
    · rfl
    · split
      · rfl
      · next t found =>
        rw [closing, empty]
        split
        · rfl
        · split
          · rfl
          · rw [changed_reading, changed_reading,
              read_table_line_recased t recased agreeing.referred]

/-! Whole dumps -/

theorem read_lines_next (reading : Reading) (number : Nat) (line : List Char)
    (rest : List (List Char)) :
    (readLines reading number (line :: rest)).outcome.toOption =
      (advance reading (trim line)).reading?.bind fun next =>
        (readLines next (number + 1) rest).outcome.toOption := by
  rw [readLines, Step.reading?]
  cases (advance reading (trim line)).failure with
  | none => rfl
  | some failure => rfl

theorem trim_recased {line other : List Char} (recased : Recased line other) :
    Recased (trim line) (trim other) := by
  rw [Recased, ← trim_capitals, recased, trim_capitals]

theorem read_lines_recased (reading : Reading) (first second : Nat)
    {lines others : List (List Char)} (recased : List.Forall₂ Recased lines others)
    (agreeing : ∀ pair ∈ lines.zip others, Agreeing (trim pair.1) (trim pair.2))
    (pairs : ∀ line ∈ lines, hasCreateTable false (trim line) = true → OpensPairs (trim line)) :
    (readLines reading first lines).outcome.toOption =
      (readLines reading second others).outcome.toOption := by
  induction recased generalizing reading first second with
  | nil =>
      rw [readLines, readLines]
  | @cons line other rest rest' here behind ih =>
      have agrees := agreeing (line, other) (by simp)
      rw [read_lines_next, read_lines_next,
        advance_recased reading (trim_recased here) agrees (pairs line (by simp))]
      cases (advance reading (trim other)).reading? with
      | none => rfl
      | some next =>
          exact ih next (first + 1) (second + 1)
            (fun pair member => agreeing pair (List.mem_cons_of_mem _ member))
            (fun line member => pairs line (List.mem_cons_of_mem _ member))

theorem split_lines_recased {text other : List Char} (recased : Recased text other) :
    List.Forall₂ Recased (splitLines text) (splitLines other) := by
  have lines : (splitLines text).map (List.map asciiUpperChar) =
      (splitLines other).map (List.map asciiUpperChar) := by
    rw [← split_lines_capitals, recased, split_lines_capitals]
  rw [← List.forall₂_eq_eq_eq, List.forall₂_map_left_iff, List.forall₂_map_right_iff] at lines
  exact lines

/-- Of two dumps that differ only in the case of ASCII letters, and agree in the names that are
kept as they are written, one is read if and only if the other is, and to the same database, its
tables and fields in the same order. In lines that open tables, no backtick that closes a pair
may begin a word or a further part of a name. -/
theorem parse_recased {schema other : String} (title : String)
    (recased : Recased schema.toList other.toList)
    (agreeing : ∀ pair ∈ (splitLines schema.toList).zip (splitLines other.toList),
      Agreeing (trim pair.1) (trim pair.2))
    (pairs : ∀ line ∈ splitLines schema.toList,
      hasCreateTable false (trim line) = true → OpensPairs (trim line)) (db : Database) :
    parseSchema schema title = .ok db ↔ parseSchema other title = .ok db := by
  have same := read_lines_recased { database := { title } } 1 1 (split_lines_recased recased)
    agreeing pairs
  rw [← Outcome.to_option_some_iff, ← Outcome.to_option_some_iff]
  rw [parseSchema, readSchema, parseSchema, readSchema, same]

instance (line other : List Char) : Decidable (Agreeing line other) :=
  decidable_of_iff
    ((hasCreateTable false line = true → SamePaired line other) ∧
      (startsForeignKey line = true → referencedName? line = referencedName? other))
    ⟨fun both => ⟨both.1, both.2⟩, fun agreeing => ⟨agreeing.opened, agreeing.referred⟩⟩

def dumpOf (lines : List String) : String :=
  String.ofList (lines.flatMap fun line => line.toList ++ ['\n'])

def loudOrders : String :=
  dumpOf ["CREATE TABLE `Orders` (", "`ID` INT NOT NULL,", "`STATE` ENUM('OPEN', Done),",
    "`BUYER` VARCHAR(20),", "PRIMARY KEY (`Id`),", "FOREIGN KEY (`BUYER`) REFERENCES `People`",
    ");"]

def quietOrders : String :=
  dumpOf ["create table `Orders` (", "`id` int not null,", "`state` Enum('Open', done),",
    "`buyer` varchar(20),", "primary key (`ID`),", "foreign key (`Buyer`) references `People`",
    ");"]

theorem parse_recased_orders :
    loudOrders ≠ quietOrders ∧ (parseSchema loudOrders "shop").toOption.isSome = true ∧
      ∀ db, parseSchema loudOrders "shop" = .ok db ↔ parseSchema quietOrders "shop" = .ok db := by
  refine ⟨?_, ?_, ?_⟩
  · decide +kernel
  · rw [parseSchema, readSchema, loudOrders, dumpOf, String.toList_ofList]
    decide +kernel
  · have recased : Recased loudOrders.toList quietOrders.toList := by
      rw [loudOrders, quietOrders, dumpOf, dumpOf, String.toList_ofList, String.toList_ofList]
      decide +kernel
    have agreeing : ∀ pair ∈ (splitLines loudOrders.toList).zip (splitLines quietOrders.toList),
        Agreeing (trim pair.1) (trim pair.2) := by
      rw [loudOrders, quietOrders, dumpOf, dumpOf, String.toList_ofList, String.toList_ofList]
      decide +kernel
    have pairs : ∀ line ∈ splitLines loudOrders.toList,
        hasCreateTable false (trim line) = true → OpensPairs (trim line) := by
      rw [loudOrders, dumpOf, String.toList_ofList]
      decide +kernel
    exact parse_recased "shop" recased agreeing pairs

/-- The first two backticks are a pair, and so are the last two. The letter between them is
outside, and yet it names the table. -/
theorem parse_recased_crossed :
    Recased "CREATE TABLE x`y `Z` w`(".toList "CREATE TABLE x`y `z` w`(".toList ∧
    (∀ pair ∈ (splitLines "CREATE TABLE x`y `Z` w`(".toList).zip
        (splitLines "CREATE TABLE x`y `z` w`(".toList), Agreeing (trim pair.1) (trim pair.2)) ∧
    ¬ ∀ db, parseSchema "CREATE TABLE x`y `Z` w`(" = .ok db ↔
      parseSchema "CREATE TABLE x`y `z` w`(" = .ok db := by
  refine ⟨by decide +kernel, by decide +kernel, fun same => ?_⟩
  have loud : parseSchema "CREATE TABLE x`y `Z` w`(" =
      .ok (Database.add {} { title := "Z" }) := by decide +kernel
  exact absurd ((same _).mp loud) (by decide +kernel)

-- The name of a table is kept as it is written.
example : parseSchema "create table `t` (" ≠ parseSchema "create table `T` (" := by
  decide +kernel

end SchemaCompiler.Ddl
