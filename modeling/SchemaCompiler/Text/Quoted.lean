import SchemaCompiler.Text.CharClass
import SchemaCompiler.Text.WideText

/-!
The quoted form in which messages show a string: single quotes, unless the text holds one and no
double quote, and an escape for everything that does not print.
-/

namespace SchemaCompiler.Text

def hexDigits (width n : Nat) : List Char :=
  let digits := Nat.toDigits 16 n
  List.replicate (width - digits.length) '0' ++ digits

def codeEscape (c : Char) : List Char :=
  let n := c.toNat
  if n < 0x100 then '\\' :: 'x' :: hexDigits 2 n
  else if n < 0x10000 then '\\' :: 'u' :: hexDigits 4 n
  else '\\' :: 'U' :: hexDigits 8 n

def showChar (quote c : Char) : List Char :=
  if c == quote || c == '\\' then ['\\', c]
  else if c == '\n' then ['\\', 'n']
  else if c == '\r' then ['\\', 'r']
  else if c == '\t' then ['\\', 't']
  else if isPrintable c then [c]
  else codeEscape c

def showPoint (quote : Char) : Point → List Char
  | .char c => showChar quote c
  | half => '\\' :: 'u' :: hexDigits 4 half.code

def showQuote (text : List Point) : Char :=
  if text.contains (.char '\'') && !text.contains (.char '"') then '"' else '\''

def showQuoted (text : WideText) : String :=
  let quote := showQuote text.points
  String.ofList (quote :: text.points.flatMap (showPoint quote) ++ [quote])

end SchemaCompiler.Text
