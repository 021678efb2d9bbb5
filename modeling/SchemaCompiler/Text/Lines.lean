import SchemaCompiler.Text.CharClass

/-!
Cutting text into lines, words and parts.
-/

namespace SchemaCompiler.Text

/-- Lines without their breaks. A break at the very end opens no further line, and a carriage
return with the line feed behind it is one break. -/
def splitLinesOn (line : List Char) : List Char → List (List Char)
  | [] => if line.isEmpty then [] else [line.reverse]
  | '\r' :: '\n' :: rest => line.reverse :: splitLinesOn [] rest
  | c :: rest =>
    if isLineBreak c then line.reverse :: splitLinesOn [] rest
    else splitLinesOn (c :: line) rest

def splitLines (text : List Char) : List (List Char) := splitLinesOn [] text

def trimLeft (text : List Char) : List Char := text.dropWhile isBlank

def trimRight (text : List Char) : List Char := (text.reverse.dropWhile isBlank).reverse

def trim (text : List Char) : List Char := trimRight (trimLeft text)

def trimString (text : String) : String := String.ofList (trim text.toList)

def runsOutside (gap : Char → Bool) : List Char → List Char → List (List Char)
  | word, [] => if word.isEmpty then [] else [word.reverse]
  | word, c :: rest =>
    if gap c then
      if word.isEmpty then runsOutside gap [] rest
      else word.reverse :: runsOutside gap [] rest
    else runsOutside gap (c :: word) rest

def words (text : List Char) : List (List Char) := runsOutside isBlank [] text

def cutAt? (mark : List Char) : List Char → Option (List Char × List Char)
  | [] => if mark.isEmpty then some ([], []) else none
  | c :: rest =>
    if mark.isPrefixOf (c :: rest) then some ([], (c :: rest).drop mark.length)
    else (cutAt? mark rest).map fun (front, back) => (c :: front, back)

def cutAtLast? (mark : List Char) : List Char → Option (List Char × List Char)
  | [] => if mark.isEmpty then some ([], []) else none
  | c :: rest =>
    match cutAtLast? mark rest with
    | some (front, back) => some (c :: front, back)
    | none =>
      if mark.isPrefixOf (c :: rest) then some ([], (c :: rest).drop mark.length) else none

def unifyLineEnds : List Char → List Char
  | [] => []
  | '\r' :: '\n' :: rest => '\n' :: unifyLineEnds rest
  | '\r' :: rest => '\n' :: unifyLineEnds rest
  | c :: rest => c :: unifyLineEnds rest

def lineAndColumn (before : List Char) : Nat × Nat :=
  before.foldl (fun (line, column) c => if c == '\n' then (line + 1, 1) else (line, column + 1))
    (1, 1)

def joinWith (gap : String) (parts : List String) : String := gap.intercalate parts

end SchemaCompiler.Text
