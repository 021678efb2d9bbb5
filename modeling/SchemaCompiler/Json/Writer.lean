import SchemaCompiler.Json.Basic

/-!
Writing JSON text, on one line or indented by two spaces, with characters beyond ASCII escaped
or raw.
-/

namespace SchemaCompiler.Json

open Decimal

inductive Charset where
  /-- Everything outside the printable ASCII range is escaped. -/
  | ascii
  /-- Only what a string cannot hold is escaped. -/
  | unicode
  deriving DecidableEq

def hexDigit (n : Nat) : Char := Nat.digitChar (n % 16)

def unitEscape (unit : Nat) : List Char :=
  ['\\', 'u', hexDigit (unit / 4096), hexDigit (unit / 256), hexDigit (unit / 16), hexDigit unit]

def unicodeEscapeOf (c : Char) : List Char :=
  let n := c.toNat
  if n < 0x10000 then unitEscape n
  else
    unitEscape (0xD800 + (n - 0x10000) / 0x400) ++ unitEscape (0xDC00 + (n - 0x10000) % 0x400)

def escapeChar (charset : Charset) (c : Char) : List Char :=
  match c with
  | '"' => ['\\', '"']
  | '\\' => ['\\', '\\']
  | '\n' => ['\\', 'n']
  | '\r' => ['\\', 'r']
  | '\t' => ['\\', 't']
  | '\x08' => ['\\', 'b']
  | '\x0c' => ['\\', 'f']
  | _ =>
    if c.toNat < 32 then unicodeEscapeOf c
    else if charset == .ascii && 127 ≤ c.toNat then unicodeEscapeOf c
    else [c]

def escapePoint (charset : Charset) : Point → List Char
  | .char c => escapeChar charset c
  | half => unitEscape half.code

def quote (charset : Charset) (text : WideText) : List Char :=
  '"' :: text.points.flatMap (escapePoint charset) ++ ['"']

def quoted (text : WideText) : String := String.ofList (quote .ascii text)

def integerText (n : Int) : List Char := (toString n).toList

def floatLiteral : FloatValue → List Char
  | .notANumber => "NaN".toList
  | .infinite negative => withSign negative "Infinity".toList
  | value => shortestText value

/-- Where a value stands: everything on one line, or so many levels deep. -/
inductive Layout where
  | line
  | nested (depth : Nat)

namespace Layout

def inner : Layout → Layout
  | .line => .line
  | .nested depth => .nested (depth + 1)

def breakTo : Layout → List Char
  | .line => []
  | .nested depth => '\n' :: List.replicate (2 * depth) ' '

def between : Layout → List Char
  | .line => [',', ' ']
  | .nested depth => ',' :: '\n' :: List.replicate (2 * depth) ' '

end Layout

mutual

def write (charset : Charset) (layout : Layout) : Json → List Char
  | .null => "null".toList
  | .bool true => "true".toList
  | .bool false => "false".toList
  | .integer n => integerText n
  | .float x => floatLiteral x
  | .string s => quote charset s
  | .array [] => ['[', ']']
  | .array (first :: rest) =>
    '[' :: layout.inner.breakTo ++ write charset layout.inner first ++
      writeItems charset layout.inner rest ++ layout.breakTo ++ [']']
  | .object [] => ['\x7b', '\x7d']
  | .object ((key, value) :: rest) =>
    '\x7b' :: layout.inner.breakTo ++ quote charset key ++ [':', ' '] ++
      write charset layout.inner value ++ writeMembers charset layout.inner rest ++
      layout.breakTo ++ ['\x7d']

def writeItems (charset : Charset) (layout : Layout) : List Json → List Char
  | [] => []
  | item :: rest =>
    layout.between ++ write charset layout item ++ writeItems charset layout rest

def writeMembers (charset : Charset) (layout : Layout) : List (WideText × Json) → List Char
  | [] => []
  | (key, value) :: rest =>
    layout.between ++ quote charset key ++ [':', ' '] ++ write charset layout value ++
      writeMembers charset layout rest

end

def compact (value : Json) : String := String.ofList (write .ascii .line value)

def indented (value : Json) : String := String.ofList (write .ascii (.nested 0) value)

def indentedUnicode (value : Json) : String := String.ofList (write .unicode (.nested 0) value)

end SchemaCompiler.Json
