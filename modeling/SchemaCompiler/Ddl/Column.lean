import SchemaCompiler.Ddl.Labels
import SchemaCompiler.Schema.Database

/-!
Column declarations: a name, a type with an optional group in parentheses, and words that set
flags.
-/

namespace SchemaCompiler.Ddl

open Text

def maxLengthDigits : Nat := 4300

def liftParse {α : Type} : Except ParseError α → Except Failure α
  | .ok a => .ok a
  | .error e => .error (.parse e)

def groupLength (tokens : List Token) (line : List Char) : Except ParseError Nat :=
  match tokens with
  | [] => .ok 0
  | first :: _ =>
    if first.kind != .opening then .ok 0
    else if tokens.any (·.kind == .closing) then
      .ok (tokens.findIdx (·.kind == .closing) + 1)
    else fail (.noClosing (String.ofList line)) line

def hasWords (sequence : List String) : List String → Bool
  | [] => sequence.isEmpty
  | word :: rest => sequence.isPrefixOf (word :: rest) || hasWords sequence rest

def hasPart (part text : List Char) : Bool := (cutAt? part text).isSome

/-- The character limit in a type such as `varchar(110)`. -/
def readLength (line span : List Char) : Except Failure Nat := do
  let inner ← liftParse (unwrapParentheses span)
  let size := trim inner
  if size.isEmpty || !size.all isDecimalDigit then
    liftParse (fail (.badLength (String.ofList line)) line)
  else if maxLengthDigits < size.length then .error .lengthTooLong
  else .ok (decimalValue size)

/-- The part of a field that its type determines. `span` is the text of the type, and `grouped`
tells whether it has a group. -/
def readType (title descriptor : String) (span : List Char) (grouped : Bool)
    (flags : List String) (line : List Char) : Except Failure Field :=
  if descriptor == "int" then
    let increment := flags.contains "auto_increment"
    .ok { title
          datatype := if flags.contains "unsigned" then .unsigned64 else .signed64
          bytes := some 64, increment, generated := increment }
  else if descriptor == "varchar" && grouped then do
    let size ← readLength line span
    .ok { title, datatype := .string, characters := some (size : Int) }
  else if descriptor == "enum" && grouped then do
    let found ← liftParse (labels span)
    .ok { title, datatype := .enum, labels := some found }
  else if descriptor == "set" && grouped then do
    let found ← liftParse (labels span)
    .ok { title, datatype := .set, members := some (.ofList found) }
  else if hasPart "tinyint".toList descriptor.toList then .ok { title, datatype := .byte }
  else if hasPart "json".toList descriptor.toList then .ok { title, datatype := .json }
  else
    liftParse (fail (.unknownType (String.ofList (lowerFrom false span))) line)

def readColumn (name : Token) (rest : List Token) (line : List Char) : Except Failure Field := do
  let title := lower name.value
  if title == "" then liftParse (fail (.emptyFieldName (String.ofList line)) line)
  else match rest with
    | [] => liftParse (fail (.noType title) line)
    | type :: behind =>
      if type.kind != .word then liftParse (fail (.noType title) line)
      else do
        let size ← liftParse (groupLength behind line)
        let last := ((behind.take size).getLast?).getD type
        let span := slice line type.start last.stop
        let flags := ((behind.drop size).filter (·.kind == .word)).map fun t => lower t.value
        let field ← readType title (lower type.value) span (0 < size) flags line
        .ok { field with
          required := hasWords ["not", "null"] flags
          primary := hasWords ["primary", "key"] flags
          unique := flags.contains "unique" }

end SchemaCompiler.Ddl
