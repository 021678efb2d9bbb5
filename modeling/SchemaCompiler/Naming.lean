import SchemaCompiler.Schema.Field
import SchemaCompiler.Text.Case
import SchemaCompiler.Text.Lines

/-!
Names in generated code, made from the titles of tables and fields.
-/

namespace SchemaCompiler

open Text

namespace Naming

def capitalize : List Char → List Char
  | [] => []
  | c :: rest => asciiUpperChar c :: rest

def pascalCase (name : WideText) : Except InternalError String :=
  match runsOutside (fun c => !isAsciiAlphanumeric c) [] name.shown.toList with
  | [] => .error (.emptyIdentifier name)
  | found => .ok (String.ofList (found.flatMap capitalize))

/-- An underscore goes between a small letter or a digit and a capital, and between a capital and
a capitalised word; both are looked for from left to right, in text not yet used. -/
def splitCapitals : List Char → List Char
  | a :: b :: c :: rest =>
    if (isAsciiLower a || isAsciiDigit a) && isAsciiUpper b then
      a :: '_' :: b :: splitCapitals (c :: rest)
    else if isAsciiUpper a && isAsciiUpper b && isAsciiLower c then
      a :: '_' :: b :: c :: splitCapitals rest
    else a :: splitCapitals (b :: c :: rest)
  | [a, b] =>
    if (isAsciiLower a || isAsciiDigit a) && isAsciiUpper b then [a, '_', b] else [a, b]
  | text => text

def keywords : List String := [
  "and", "as", "assert", "async", "await", "break", "class", "continue", "def", "del", "elif",
  "else", "except", "finally", "for", "from", "global", "if", "import", "in", "is", "lambda",
  "nonlocal", "not", "or", "pass", "raise", "return", "try", "while", "with", "yield"]

/-- A lower-case name with underscores. A keyword gets one at its end, and a name that starts
with a digit one in front. -/
def snakeCase (name : String) : String :=
  let parts := lowerFrom false (splitCapitals name.toList)
  let plain := String.ofList (parts.map fun c => if isWordChar c then c else '_')
  if keywords.contains plain then plain ++ "_"
  else if (plain.toList.head?.map isDigit).getD false then "_" ++ plain
  else plain

end Naming

end SchemaCompiler
