import SchemaCompiler.Decimal.Numeral
import SchemaCompiler.Text.Lines
import SchemaCompiler.Toml.Document

/-!
Reading TOML documents. Every reader takes the characters that remain and returns what it leaves;
loops over keys, values and lines run on a bound that the length of the text provides.
-/

namespace SchemaCompiler.Toml

open Text Decimal

inductive ReadError where
  | malformed
  | integerTooLong
  deriving DecidableEq, Repr

abbrev Outcome := Except ReadError

def maxIntegerDigits : Nat := 4300

def isGap (c : Char) : Bool := c == ' ' || c == '\t'

def isGapOrBreak (c : Char) : Bool := isGap c || c == '\n'

def isControl (c : Char) : Bool := (c.toNat < 32 && c != '\t') || c.toNat == 127

def skipGap (text : List Char) : List Char := text.dropWhile isGap

def isBareKeyChar (c : Char) : Bool := isAsciiAlphanumeric c || c == '-' || c == '_'

def skipComment (text : List Char) : Outcome (List Char) :=
  match text with
  | '#' :: rest =>
    if (rest.takeWhile (· != '\n')).any isControl then .error .malformed
    else .ok (rest.dropWhile (· != '\n'))
  | _ => .ok text

def skipLines (inComment : Bool) : List Char → Outcome (List Char)
  | [] => .ok []
  | c :: rest =>
    if c == '\n' then skipLines false rest
    else if inComment then (if isControl c then .error .malformed else skipLines true rest)
    else if isGap c then skipLines false rest
    else if c == '#' then skipLines true rest
    else .ok (c :: rest)

def readLiteral (text : List Char) : Outcome (List Char × List Char) :=
  match cutAt? ['\''] text with
  | some (content, rest) => if content.any isControl then .error .malformed else .ok (content, rest)
  | none => .error .malformed

def hexChar? (count : Nat) (text : List Char) : Option Char := do
  let digits := text.take count
  let values ← digits.mapM hexValue?
  let code := values.foldl (fun code digit => code * 16 + digit) 0
  if digits.length == count && (code < 0xD800 || (0xE000 ≤ code && code < 0x110000)) then
    some (Char.ofNat code)
  else none

def shortEscape? : Char → Option Char
  | 'b' => some '\x08'
  | 't' => some '\t'
  | 'n' => some '\n'
  | 'f' => some '\x0c'
  | 'r' => some '\r'
  | '"' => some '"'
  | '\\' => some '\\'
  | _ => none

/-- What an escape stands for, and how many characters behind its backslash it takes up. In a
string of several lines a backslash at the end of a line takes all blank space up to the next
character along. -/
def escape? (multiline : Bool) (text : List Char) : Option (List Char × Nat) :=
  let blank := text.takeWhile isGapOrBreak
  if multiline && blank.contains '\n' then some ([], blank.length)
  else match text with
    | 'u' :: digits => (hexChar? 4 digits).map fun c => ([c], 5)
    | 'U' :: digits => (hexChar? 8 digits).map fun c => ([c], 9)
    | c :: _ => (shortEscape? c).map fun decoded => ([decoded], 1)
    | [] => none

/-- The content of a string behind its opening quotes. `skip` counts characters that an escape
has already taken. -/
def readQuoted (multiline : Bool) : (skip : Nat) → List Char → Outcome (List Char × List Char)
  | _, [] => .error .malformed
  | skip + 1, _ :: rest => readQuoted multiline skip rest
  | 0, c :: rest =>
    if c == '"' && !multiline then .ok ([], rest)
    else if c == '"' && ['"', '"'].isPrefixOf rest then .ok ([], rest.drop 2)
    else if c == '\\' then
      match escape? multiline rest with
      | none => .error .malformed
      | some (decoded, used) =>
        (readQuoted multiline used rest).map fun (content, left) => (decoded ++ content, left)
    else if isControl c && !(multiline && c == '\n') then .error .malformed
    else (readQuoted multiline 0 rest).map fun (content, left) => (c :: content, left)

def readLongLiteral (text : List Char) : Outcome (List Char × List Char) :=
  match cutAt? ['\'', '\'', '\''] text with
  | some (content, rest) =>
    if content.any fun c => isControl c && c != '\n' then .error .malformed
    else .ok (content, rest)
  | none => .error .malformed

/-- Behind the three closing marks of a string, up to two more of them belong to its content. -/
def takeMarks (mark : Char) (found : List Char × List Char) : List Char × List Char :=
  let marks := (found.2.take 2).takeWhile (· == mark)
  (found.1 ++ marks, found.2.drop marks.length)

/-- A line break right behind the opening marks does not belong to the content. -/
def dropFirstBreak (text : List Char) : List Char :=
  match text with
  | '\n' :: rest => rest
  | _ => text

def readString? (text : List Char) : Option (Outcome (List Char × List Char)) :=
  match text with
  | '"' :: '"' :: '"' :: rest =>
    some ((readQuoted true 0 (dropFirstBreak rest)).map (takeMarks '"'))
  | '"' :: rest => some (readQuoted false 0 rest)
  | '\'' :: '\'' :: '\'' :: rest =>
    some ((readLongLiteral (dropFirstBreak rest)).map (takeMarks '\''))
  | '\'' :: rest => some (readLiteral rest)
  | _ => none

def readKeyPart (text : List Char) : Outcome (String × List Char) :=
  match text with
  | '"' :: rest => (readQuoted false 0 rest).map fun (part, left) => (String.ofList part, left)
  | '\'' :: rest => (readLiteral rest).map fun (part, left) => (String.ofList part, left)
  | _ =>
    let part := text.takeWhile isBareKeyChar
    if part.isEmpty then .error .malformed
    else .ok (String.ofList part, text.dropWhile isBareKeyChar)

def readKeyParts : (fuel : Nat) → List Char → Outcome (List String × List Char)
  | 0, _ => .error .malformed
  | fuel + 1, text => do
    let (part, rest) ← readKeyPart text
    match skipGap rest with
    | '.' :: more =>
      let (parts, left) ← readKeyParts fuel (skipGap more)
      return (part :: parts, left)
    | left => return ([part], left)

def readKey (text : List Char) : Outcome (List String × List Char) := readKeyParts text.length text

def digitRun (isMember : Char → Bool) (afterDigit : Bool) : List Char → List Char × List Char
  | [] => ([], [])
  | c :: rest =>
    if isMember c then
      let (digits, left) := digitRun isMember true rest
      (c :: digits, left)
    else if c == '_' && afterDigit && rest.head?.any isMember then digitRun isMember false rest
    else ([], c :: rest)

def radixOf? (mark : Char) : Option Nat :=
  if mark == 'x' then some 16
  else if mark == 'o' then some 8
  else if mark == 'b' then some 2
  else none

def isDigitIn (radix : Nat) (c : Char) : Bool := (hexValue? c).any (· < radix)

def readMarked? (text : List Char) : Option (Value × List Char) :=
  match text with
  | '0' :: mark :: rest => do
    let radix ← radixOf? mark
    let (digits, left) := digitRun (isDigitIn radix) false rest
    if digits.isEmpty then none
    else
      let value := digits.foldl (fun value c => value * radix + (hexValue? c).getD 0) 0
      some (.integer value, left)
  | _ => none

def wholeDigits? (text : List Char) : Option (List Char × List Char) :=
  match text with
  | '0' :: rest => some (['0'], rest)
  | _ =>
    match digitRun isAsciiDigit false text with
    | ([], _) => none
    | found => some found

def fraction? (text : List Char) : Option (List Char × List Char) :=
  match text with
  | '.' :: rest =>
    match digitRun isAsciiDigit false rest with
    | ([], _) => none
    | found => some found
  | _ => none

def splitSign (text : List Char) : Bool × List Char :=
  match text with
  | '-' :: rest => (true, rest)
  | '+' :: rest => (false, rest)
  | _ => (false, text)

def exponent? (text : List Char) : Option (Int × List Char) :=
  match text with
  | mark :: rest =>
    if mark == 'e' || mark == 'E' then
      let (negative, unsigned) := splitSign rest
      match digitRun isAsciiDigit false unsigned with
      | ([], _) => none
      | (digits, left) =>
        let size : Int := decimalValue digits
        some (if negative then -size else size, left)
    else none
  | [] => none

def readDecimal? (text : List Char) : Option (Outcome (Value × List Char)) :=
  let (negative, unsigned) := splitSign text
  match wholeDigits? unsigned with
  | none => none
  | some (whole, behindWhole) =>
    let (fraction, behindFraction) := (fraction? behindWhole).getD ([], behindWhole)
    let (power, rest) := match exponent? behindFraction with
      | some (power, rest) => (some power, rest)
      | none => (none, behindFraction)
    if fraction.isEmpty && power.isNone then
      if maxIntegerDigits < whole.length then some (.error .integerTooLong)
      else
        let size : Int := decimalValue whole
        some (.ok (.integer (if negative then -size else size), rest))
    else
      let numeral : Numeral :=
        ⟨negative, decimalValue (whole ++ fraction), power.getD 0 - fraction.length⟩
      some (.ok (.float numeral.toDouble, rest))

def words : List (List Char × Value) := [
  ("true".toList, .boolean true),
  ("false".toList, .boolean false),
  ("inf".toList, .float (.infinite false)),
  ("+inf".toList, .float (.infinite false)),
  ("-inf".toList, .float (.infinite true)),
  ("nan".toList, .float .notANumber),
  ("+nan".toList, .float .notANumber),
  ("-nan".toList, .float .notANumber)]

/-- A value that is no string, array or table. Dates come before numbers, which they start like. -/
def readScalar (text : List Char) : Outcome (Value × List Char) :=
  match words.find? fun (word, _) => word.isPrefixOf text with
  | some (word, value) => .ok (value, text.drop word.length)
  | none =>
    match readMoment? text with
    | some (moment, rest) =>
      if moment.isValid then .ok (.moment moment, rest) else .error .malformed
    | none =>
      match readMarked? text with
      | some found => .ok found
      | none => (readDecimal? text).getD (.error .malformed)

mutual

def readValue : (fuel : Nat) → List Char → Outcome (Value × List Char)
  | 0, _ => .error .malformed
  | fuel + 1, text =>
    match readString? text with
    | some found => found.map fun (content, left) => (.string (String.ofList content), left)
    | none =>
      match text with
      | '[' :: rest => do
        let (items, left) ← readItems fuel (← skipLines false rest)
        return (.array items, left)
      | '\x7b' :: rest =>
        match skipGap rest with
        | '\x7d' :: left => .ok (.table [], left)
        | first => do
          let (entries, left) ← readInline fuel [] first
          return (.table (entriesToValues entries), left)
      | _ => readScalar text

def readItems : (fuel : Nat) → List Char → Outcome (List Value × List Char)
  | 0, _ => .error .malformed
  | fuel + 1, text =>
    match text with
    | ']' :: left => .ok ([], left)
    | _ => do
      let (item, rest) ← readValue fuel text
      match ← skipLines false rest with
      | ']' :: left => return ([item], left)
      | ',' :: more =>
        let (items, left) ← readItems fuel (← skipLines false more)
        return (item :: items, left)
      | _ => .error .malformed

def readInline : (fuel : Nat) → Entries → List Char → Outcome (Entries × List Char)
  | 0, _, _ => .error .malformed
  | fuel + 1, entries, text => do
    let (key, value, rest) ← readEntry fuel text
    match Entries.insert? 0 value key entries with
    | none => .error .malformed
    | some entries =>
      match skipGap rest with
      | '\x7d' :: left => .ok (entries, left)
      | ',' :: more => readInline fuel entries (skipGap more)
      | _ => .error .malformed

def readEntry : (fuel : Nat) → List Char → Outcome (List String × Value × List Char)
  | 0, _ => .error .malformed
  | fuel + 1, text => do
    let (key, rest) ← readKey text
    match rest with
    | '=' :: behind =>
      let (value, left) ← readValue fuel (skipGap behind)
      return (key, value, left)
    | _ => .error .malformed

end

def orMalformed {α : Type} : Option α → Outcome α
  | some a => .ok a
  | none => .error .malformed

def readHeader (closing text : List Char) : Outcome (List String × List Char) := do
  let (path, rest) ← readKey (skipGap text)
  if closing.isPrefixOf rest then return (path, rest.drop closing.length) else .error .malformed

def readStatement (document : Document) (text : List Char) : Outcome (Document × List Char) :=
  match text with
  | '[' :: '[' :: rest => do
    let (path, left) ← readHeader [']', ']'] rest
    return (← orMalformed (document.addTable? path), left)
  | '[' :: rest => do
    let (path, left) ← readHeader [']'] rest
    return (← orMalformed (document.openTable? path), left)
  | '#' :: _ => .ok (document, text)
  | '\n' :: _ => .ok (document, text)
  | [] => .ok (document, [])
  | _ => do
    let (key, value, left) ← readEntry (2 * text.length + 2) text
    return (← orMalformed (document.insert? key value), left)

def readStatements : (fuel : Nat) → Document → List Char → Outcome Document
  | 0, _, _ => .error .malformed
  | fuel + 1, document, text => do
    let (document, rest) ← readStatement document (skipGap text)
    match ← skipComment (skipGap rest) with
    | [] => return document
    | '\n' :: more => readStatements fuel document more
    | _ => .error .malformed

def dropCarriageReturns : List Char → List Char
  | [] => []
  | '\r' :: '\n' :: rest => '\n' :: dropCarriageReturns rest
  | c :: rest => c :: dropCarriageReturns rest

def read (text : String) : Outcome (List (String × Value)) :=
  let source := dropCarriageReturns text.toList
  (readStatements (source.length + 1) {} source).map Document.toEntries

end SchemaCompiler.Toml
