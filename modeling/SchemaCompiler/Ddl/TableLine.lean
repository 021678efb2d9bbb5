import SchemaCompiler.Ddl.Column
import SchemaCompiler.Log

/-!
Lines of a table's body: column declarations, the key lines that mark columns, and all that says
nothing about columns.
-/

namespace SchemaCompiler.Ddl

open Text

/-- What a line did: the table as it leaves it, notes, and the failure that ended it, if any. -/
structure TableEffect where
  table : Table
  notes : List Note := []
  failure : Option Failure := none

def TableEffect.failed (table : Table) (cause : Cause) (line : List Char) : TableEffect :=
  { table, failure := some (.parse { cause, line := String.ofList line }) }

def listedColumns (tokens : List Token) : List String :=
  ((tokens.takeWhile (·.kind != .closing)).filter (·.kind == .identifier)).map
    fun t => lower t.value

/-- Marks columns one after the other and stops at the first that does not exist; the marks
already made stay. -/
def markPrimaryColumns (line : List Char) (table : Table) : List String → TableEffect
  | [] => { table }
  | column :: rest =>
    if table.fields.contains column then
      markPrimaryColumns line (table.markPrimary column) rest
    else .failed table (.unknownPrimaryColumn column table.title) line

def readPrimaryKey (tokens : List Token) (line : List Char) (table : Table) : TableEffect :=
  match listedColumns (tokens.drop 2) with
  | [] => .failed table .emptyPrimaryKey line
  | columns => markPrimaryColumns line table columns

/-- A unique key of one column marks it; a key of several says nothing about each of them. -/
def readUniqueKey (tokens : List Token) (table : Table) : TableEffect :=
  if !tokens.any (·.kind == .opening) then { table }
  else match listedColumns (tokens.dropWhile (·.kind != .opening)) with
    | [column] =>
      if table.fields.contains column then { table := table.markUnique column }
      else
        { table
          notes := [⟨.warning, s!"Unique key on unknown field {column} in {table.title}"⟩] }
    | _ => { table }

def markForeignColumns (target : String) (table : Table) : List String → TableEffect
  | [] => { table }
  | column :: rest =>
    if table.fields.contains column then
      markForeignColumns target (table.markForeign column target) rest
    else
      let effect := markForeignColumns target table rest
      { effect with
        notes :=
          ⟨.warning, s!"Foreign key on unknown field {column} in {table.title}"⟩ :: effect.notes }

/-- A foreign key line: the columns named between its two keywords refer to the table named
first behind the second one. -/
def readForeignKey (tokens : List Token) (table : Table) : TableEffect :=
  let foreign := tokens.findIdx (·.isWord ["foreign"])
  let references := tokens.findIdx (·.isWord ["references"])
  if tokens.length ≤ foreign || tokens.length ≤ references || references < foreign then { table }
  else match (tokens.drop references).find? (·.kind == .identifier) with
    | none => { table }
    | some target =>
      markForeignColumns target.value table
        (listedColumns ((tokens.drop foreign).take (references - foreign)))

def isComment (line : List Char) : Bool :=
  "--".toList.isPrefixOf line || ['#'].isPrefixOf line || "/*".toList.isPrefixOf line

def readColumnLine (name : Token) (rest : List Token) (line : List Char) (table : Table) :
    TableEffect :=
  match readColumn name rest line with
  | .error failure => { table, failure := some failure }
  | .ok field =>
    if table.fields.contains field.title then
      .failed table (.repeatedField field.title table.title) line
    else { table := table.add field }

def readTableLine (line : List Char) (table : Table) : TableEffect :=
  if isComment line then { table }
  else match tokenize line with
    | .error e => { table, failure := some (.parse e) }
    | .ok [] => { table }
    | .ok (first :: rest) =>
      if first.isWord ["primary"] then readPrimaryKey (first :: rest) line table
      else if first.isWord ["unique"] then readUniqueKey (first :: rest) table
      else if first.isWord ["constraint", "foreign"] then readForeignKey (first :: rest) table
      else if first.kind == .identifier then readColumnLine first rest line table
      else
        { table
          notes :=
            [⟨.debug, s!"Ignoring line in table {table.title}: {String.ofList line}"⟩] }

end SchemaCompiler.Ddl
