import SchemaCompiler.Association
import SchemaCompiler.Json.Basic

/-!
Reading JSON text. Every reader takes the characters that remain and returns what it leaves, and
a fault says how many characters are left where it lies. Loops over values run on a bound that
the length of the text provides.
-/

namespace SchemaCompiler.Json

open Text Decimal

inductive Fault where
  | byteOrderMark
  | value
  | propertyName
  | colon
  | comma
  | unterminatedString
  | controlCharacter
  | escape
  | unicodeEscape
  | extraData
  deriving DecidableEq, Repr

def Fault.reason : Fault → String
  | .byteOrderMark => "Unexpected UTF-8 BOM (decode using utf-8-sig)"
  | .value => "Expecting value"
  | .propertyName => "Expecting property name enclosed in double quotes"
  | .colon => "Expecting ':' delimiter"
  | .comma => "Expecting ',' delimiter"
  | .unterminatedString => "Unterminated string starting at"
  | .controlCharacter => "Invalid control character at"
  | .escape => "Invalid \\escape"
  | .unicodeEscape => "Invalid \\uXXXX escape"
  | .extraData => "Extra data"

inductive ReadError where
  /-- The text is no JSON from the place on where `left` characters remain. -/
  | malformed (fault : Fault) (left : Nat)
  | integerTooLong
  deriving DecidableEq, Repr

abbrev Read (α : Type) := Except ReadError (α × List Char)

def failAt {α : Type} (fault : Fault) (rest : List Char) : Except ReadError α :=
  .error (.malformed fault rest.length)

def maxIntegerDigits : Nat := 4300

def isJsonBlank (c : Char) : Bool := c == ' ' || c == '\t' || c == '\n' || c == '\r'

def skipBlanks (text : List Char) : List Char := text.dropWhile isJsonBlank

/-- Four hexadecimal digits that are not the last thing in the text. -/
def hexUnit? : List Char → Option Nat
  | a :: b :: c :: d :: _ :: _ => do
    let a ← hexValue? a
    let b ← hexValue? b
    let c ← hexValue? c
    let d ← hexValue? d
    pure (((a * 16 + b) * 16 + c) * 16 + d)
  | _ => none

def shortEscape? : Char → Option Char
  | '"' => some '"'
  | '\\' => some '\\'
  | '/' => some '/'
  | 'b' => some '\x08'
  | 'f' => some '\x0c'
  | 'n' => some '\n'
  | 'r' => some '\r'
  | 't' => some '\t'
  | _ => none

/-- The points of a string behind its opening quote, one for each escape. `openLeft` is the number
of characters from that quote on, and `skip` counts characters that an escape has already taken. -/
def readPoints (openLeft : Nat) : (skip : Nat) → List Char → Read (List Point)
  | _, [] => .error (.malformed .unterminatedString openLeft)
  | skip + 1, _ :: rest => readPoints openLeft skip rest
  | 0, c :: rest =>
    if c == '"' then .ok ([], rest)
    else if c == '\\' then
      match rest with
      | [] => .error (.malformed .unterminatedString openLeft)
      | 'u' :: digits =>
        match hexUnit? digits with
        | none => failAt .unicodeEscape rest
        | some unit =>
          (readPoints openLeft 5 rest).map fun (points, left) => (.ofUnit unit :: points, left)
      | e :: _ =>
        match shortEscape? e with
        | none => failAt .escape (c :: rest)
        | some decoded =>
          (readPoints openLeft 1 rest).map fun (points, left) => (.char decoded :: points, left)
    else if c.toNat < 32 then failAt .controlCharacter (c :: rest)
    else (readPoints openLeft 0 rest).map fun (points, left) => (.char c :: points, left)

def readString (openLeft : Nat) (text : List Char) : Read WideText :=
  (readPoints openLeft 0 text).map fun (points, left) => (.ofPoints points, left)

def wholeDigits? : List Char → Option (List Char × List Char)
  | [] => none
  | c :: rest =>
    if c == '0' then some ([c], rest)
    else if isAsciiDigit c then
      some (c :: rest.takeWhile isAsciiDigit, rest.dropWhile isAsciiDigit)
    else none

def fractionDigits : List Char → List Char × List Char
  | '.' :: rest => (rest.takeWhile isAsciiDigit, rest.dropWhile isAsciiDigit)
  | _ => ([], [])

def exponentPart? : List Char → Option (Int × List Char)
  | mark :: rest =>
    if mark == 'e' || mark == 'E' then
      let (negative, digits) := match rest with
        | '-' :: ds => (true, ds)
        | '+' :: ds => (false, ds)
        | ds => (false, ds)
      let run := digits.takeWhile isAsciiDigit
      if run.isEmpty then none
      else
        let size : Int := decimalValue run
        some (if negative then -size else size, digits.dropWhile isAsciiDigit)
    else none
  | [] => none

def readUnsignedNumber? (negative : Bool) (text : List Char) :
    Option (Except ReadError (Json × List Char)) :=
  match wholeDigits? text with
  | none => none
  | some (whole, afterWhole) =>
    let (fraction, afterFraction) := match fractionDigits afterWhole with
      | ([], _) => ([], afterWhole)
      | found => found
    let (exponent, rest) := match exponentPart? afterFraction with
      | some (power, more) => (some power, more)
      | none => (none, afterFraction)
    if fraction.isEmpty && exponent.isNone then
      if maxIntegerDigits < whole.length then some (.error .integerTooLong)
      else
        let size : Int := decimalValue whole
        some (.ok (.integer (if negative then -size else size), rest))
    else
      let numeral : Numeral :=
        ⟨negative, decimalValue (whole ++ fraction), exponent.getD 0 - fraction.length⟩
      some (.ok (.float numeral.toDouble, rest))

def readNumber? (text : List Char) : Option (Except ReadError (Json × List Char)) :=
  match text with
  | '-' :: rest => readUnsignedNumber? true rest
  | _ => readUnsignedNumber? false text

def literals : List (List Char × Json) := [
  ("null".toList, .null),
  ("true".toList, .bool true),
  ("false".toList, .bool false),
  ("NaN".toList, .float .notANumber),
  ("Infinity".toList, .float (.infinite false)),
  ("-Infinity".toList, .float (.infinite true))]

def readScalar (text : List Char) : Read Json :=
  match literals.find? fun (word, _) => word.isPrefixOf text with
  | some (word, value) => .ok (value, text.drop word.length)
  | none => (readNumber? text).getD (failAt .value text)

mutual

def readValue : (bound : Nat) → List Char → Read Json
  | 0, text => failAt .value text
  | bound + 1, text =>
    match text with
    | '"' :: rest =>
      (readString text.length rest).map fun (s, left) => (.string s, left)
    | '[' :: rest =>
      match skipBlanks rest with
      | ']' :: left => .ok (.array [], left)
      | start => (readItems bound start).map fun (items, left) => (.array items, left)
    | '\x7b' :: rest =>
      match skipBlanks rest with
      | '\x7d' :: left => .ok (.object [], left)
      | start => (readMembers bound [] start).map fun (members, left) => (.object members, left)
    | _ => readScalar text

def readItems : (bound : Nat) → List Char → Read (List Json)
  | 0, text => failAt .value text
  | bound + 1, text =>
    match readValue bound text with
    | .error e => .error e
    | .ok (item, rest) =>
      match skipBlanks rest with
      | ']' :: left => .ok ([item], left)
      | ',' :: more =>
        (readItems bound (skipBlanks more)).map fun (items, left) => (item :: items, left)
      | wrong => failAt .comma wrong

def readMembers :
    (bound : Nat) → List (WideText × Json) → List Char → Read (List (WideText × Json))
  | 0, _, text => failAt .value text
  | bound + 1, before, text =>
    match text with
    | '"' :: rest =>
      match readString text.length rest with
      | .error e => .error e
      | .ok (key, afterKey) =>
        match skipBlanks afterKey with
        | ':' :: more =>
          match readValue bound (skipBlanks more) with
          | .error e => .error e
          | .ok (value, afterValue) =>
            let members := Association.set key value before
            match skipBlanks afterValue with
            | '\x7d' :: left => .ok (members, left)
            | ',' :: next => readMembers bound members (skipBlanks next)
            | wrong => failAt .comma wrong
        | wrong => failAt .colon wrong
    | wrong => failAt .propertyName wrong

end

def read (text : List Char) : Except ReadError Json :=
  match text with
  | '\ufeff' :: _ => failAt .byteOrderMark text
  | _ =>
    match readValue (2 * text.length + 2) (skipBlanks text) with
    | .error e => .error e
    | .ok (value, rest) =>
      match skipBlanks rest with
      | [] => .ok value
      | extra => failAt .extraData extra

def faultMessage (text : List Char) (fault : Fault) (left : Nat) : String :=
  let position := text.length - left
  let (line, column) := lineAndColumn (text.take position)
  s!"{fault.reason}: line {line} column {column} (char {position})"

end SchemaCompiler.Json
