/-!
What can be wrong with a line of a schema dump.
-/

namespace SchemaCompiler.Ddl

inductive Cause where
  | unclosedQuote (rest : String)
  | noBacktick (text : String)
  | loneBacktick (text : String)
  | noOpening (text : String)
  | noClosing (text : String)
  | crossedParentheses (text : String)
  | emptyElement (text : String)
  | noTableName (line : String)
  | repeatedField (field table : String)
  | emptyFieldName (line : String)
  | noType (field : String)
  | badLength (line : String)
  | unknownType (type : String)
  | emptyPrimaryKey
  | unknownPrimaryColumn (column table : String)
  deriving DecidableEq, Repr

def Cause.message : Cause → String
  | .unclosedQuote rest => s!"string {rest} does not have two instances of its quote"
  | .noBacktick text => s!"string slice does not match the format `val`: {text}"
  | .loneBacktick text => s!"string {text} does not have two instances of `'s"
  | .noOpening text => s!"could not unwrap parenthesis, line {text} had no start"
  | .noClosing text => s!"could not unwrap parenthesis, line {text} had no end"
  | .crossedParentheses text =>
    s!"could not unwrap parenthesis, line {text} has invalid parenthesis"
  | .emptyElement text => s!"comma separated list in {text} has an empty element"
  | .noTableName line => s!"no table name found in schema line: {line}"
  | .repeatedField field table => s!"field {field} is declared twice in {table}"
  | .emptyFieldName line => s!"table field cannot have empty name, line: {line}"
  | .noType field => s!"failed to read schema, field {field} has no type"
  | .badLength line => s!"schema line {line} has invalid characters in varchar"
  | .unknownType type => s!"failed to read schema, {type} is not a valid token"
  | .emptyPrimaryKey => "primary key statement found, but end of line reached"
  | .unknownPrimaryColumn column table =>
    s!"corrupt primary key formation: {column} does not exist in table {table}"

structure ParseError where
  cause : Cause
  line : String
  /-- The number of the line, once the whole schema is known. -/
  number : Option Nat := none
  deriving DecidableEq, Repr

def ParseError.message (e : ParseError) : String :=
  match e.number with
  | some n => s!"line {n}: {e.cause.message}"
  | none => e.cause.message

inductive Failure where
  | parse (error : ParseError)
  | lengthTooLong
  deriving DecidableEq, Repr

def fail {α : Type} (cause : Cause) (line : List Char) : Except ParseError α :=
  .error { cause, line := String.ofList line }

end SchemaCompiler.Ddl
