import SchemaCompiler.Ddl.TableLine

/-!
Reading a schema dump line by line into a database.
-/

namespace SchemaCompiler.Ddl

open Text

inductive Position where
  | outside
  | inside (table : String)
  deriving DecidableEq, Repr

structure Reading where
  position : Position := .outside
  database : Database

structure Step where
  reading : Reading
  notes : List Note := []
  failure : Option Failure := none

def dropKeyword? (word : List Char) (text : List Char) : Option (List Char) :=
  let front := text.take word.length
  if front.length == word.length && front.map asciiUpperChar == word then
    some (text.drop word.length)
  else none

def startsCreateTable (text : List Char) : Bool :=
  match dropKeyword? "CREATE".toList text with
  | none => false
  | some rest =>
    match rest with
    | c :: _ =>
      isBlank c &&
        match dropKeyword? "TABLE".toList (rest.dropWhile isBlank) with
        | none => false
        | some behind => !(behind.head?.map isWordChar).getD false
    | [] => false

/-- Whether the two words stand anywhere in the text. `inWord` tells whether the character before
it belongs to a word. -/
def hasCreateTable (inWord : Bool) : List Char → Bool
  | [] => false
  | c :: rest =>
    (!inWord && startsCreateTable (c :: rest)) || hasCreateTable (isWordChar c) rest

def lastNamePart (token : List Char) : List Char :=
  match cutAtLast? ['\x60', '.', '\x60'] token with
  | some (_, last) => '\x60' :: last
  | none => token

/-- The name in the first word of the line that starts with a backtick. -/
def readTableName (line : List Char) : Except ParseError String :=
  match (words line).find? (·.head? == some '\x60') with
  | none => fail (.noTableName (String.ofList line)) line
  | some token => do
    let title ← unwrapBackticks (lastNamePart token)
    if title.isEmpty then fail (.noTableName (String.ofList line)) line
    else .ok (String.ofList title)

def openTable (reading : Reading) (line : List Char) : Step :=
  match readTableName line with
  | .error e => { reading, failure := some (.parse e) }
  | .ok title =>
    let repeated := if reading.database.tables.contains title then
        [⟨.warning, s!"Table {title} is declared twice, keeping the last"⟩]
      else []
    { reading := ⟨.inside title, reading.database.add { title }⟩
      notes := repeated ++ [⟨.debug, s!"Reading table {title}"⟩] }

def closesTable (line : List Char) : Bool := line.head? == some ')' && line.contains ';'

/-- Reads one line. After a failure the position is what it was. -/
def advance (reading : Reading) (line : List Char) : Step :=
  if hasCreateTable false line then openTable reading line
  else match reading.position with
    | .outside => { reading }
    | .inside title =>
      match reading.database.table? title with
      | none => { reading }
      | some table =>
        if closesTable line then
          { reading := { reading with position := .outside }
            notes := [⟨.debug, s!"Read {table.size} fields for table {title}"⟩] }
        else if line.isEmpty then { reading }
        else
          let effect := readTableLine line table
          { reading := { reading with database := reading.database.update effect.table }
            notes := effect.notes
            failure := effect.failure }

def Failure.at (number : Nat) (line : List Char) : Failure → Failure
  | .parse e => .parse { e with line := String.ofList line, number := some number }
  | .lengthTooLong => .lengthTooLong

structure Result where
  notes : List Note
  outcome : Except Failure Database

def readLines (reading : Reading) : (number : Nat) → List (List Char) → Result
  | _, [] =>
    match reading.position with
    | .outside => ⟨[], .ok reading.database⟩
    | .inside title => ⟨[⟨.debug, s!"Schema ended inside table {title}"⟩], .ok reading.database⟩
  | number, line :: rest =>
    let step := advance reading (trim line)
    match step.failure with
    | some failure => ⟨step.notes, .error (failure.at number line)⟩
    | none =>
      let result := readLines step.reading (number + 1) rest
      { result with notes := step.notes ++ result.notes }

def readSchema (schema title : String) : Result :=
  readLines { database := { title } } 1 (splitLines schema.toList)

def parseSchema (schema : String) (title : String := "Database") : Except Failure Database :=
  (readSchema schema title).outcome

end SchemaCompiler.Ddl
