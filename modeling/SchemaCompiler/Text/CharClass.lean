import SchemaCompiler.Text.Tables

/-!
Character classes. ASCII is decided by rule and everything beyond it by the tables, so that a
statement about ASCII text never opens a table.
-/

namespace SchemaCompiler.Text

/-- Membership of a code point in a class given by its increasing points of change. -/
def inClass : List Nat → Nat → Bool
  | [], _ => false
  | start :: rest, code => if code < start then false else !inClass rest code

def isBlank (c : Char) : Bool :=
  let n := c.toNat
  (9 ≤ n && n ≤ 13) || (28 ≤ n && n ≤ 32) || n == 0x85 || n == 0xA0 || n == 0x1680 ||
    (0x2000 ≤ n && n ≤ 0x200A) || n == 0x2028 || n == 0x2029 || n == 0x202F ||
    n == 0x205F || n == 0x3000

def isLineBreak (c : Char) : Bool :=
  let n := c.toNat
  (10 ≤ n && n ≤ 13) || (28 ≤ n && n ≤ 30) || n == 0x85 || n == 0x2028 || n == 0x2029

def isAsciiDigit (c : Char) : Bool := '0' ≤ c && c ≤ '9'

def isAsciiUpper (c : Char) : Bool := 'A' ≤ c && c ≤ 'Z'

def isAsciiLower (c : Char) : Bool := 'a' ≤ c && c ≤ 'z'

def isAsciiLetter (c : Char) : Bool := isAsciiUpper c || isAsciiLower c

def hexValue? (c : Char) : Option Nat :=
  if isAsciiDigit c then some (c.toNat - 48)
  else if 'a' ≤ c && c ≤ 'f' then some (c.toNat - 87)
  else if 'A' ≤ c && c ≤ 'F' then some (c.toNat - 55)
  else none

def isAsciiAlphanumeric (c : Char) : Bool := isAsciiLetter c || isAsciiDigit c

def decimalDigit? (c : Char) : Option Nat :=
  let n := c.toNat
  if n < 128 then
    if isAsciiDigit c then some (n - 48) else none
  else
    (Tables.decimalZeros.find? fun first => first ≤ n && n < first + 10).map (n - ·)

def isDecimalDigit (c : Char) : Bool := (decimalDigit? c).isSome

/-- Decimal digits together with superscripts, circled digits and the like. -/
def isDigit (c : Char) : Bool :=
  isDecimalDigit c || (128 ≤ c.toNat && inClass Tables.otherDigits c.toNat)

def isAlphanumeric (c : Char) : Bool :=
  if c.toNat < 128 then isAsciiAlphanumeric c else inClass Tables.alphanumeric c.toNat

def isLetter (c : Char) : Bool :=
  if c.toNat < 128 then isAsciiLetter c
  else isAlphanumeric c && !inClass Tables.numerals c.toNat

def startsIdentifier (c : Char) : Bool :=
  if c.toNat < 128 then isAsciiLetter c || c == '_'
  else isLetter c != inClass Tables.startExceptions c.toNat

def continuesIdentifier (c : Char) : Bool :=
  if c.toNat < 128 then isAsciiAlphanumeric c || c == '_'
  else isAlphanumeric c != inClass Tables.partExceptions c.toNat

def isIdentifier : List Char → Bool
  | [] => false
  | c :: rest => startsIdentifier c && rest.all continuesIdentifier

def isWordChar (c : Char) : Bool := c == '_' || isAlphanumeric c

def isPrintable (c : Char) : Bool :=
  if c.toNat < 128 then 32 ≤ c.toNat && c.toNat < 127
  else !inClass Tables.unprintable c.toNat

def decimalValue (digits : List Char) : Nat :=
  digits.foldl (fun value c => value * 10 + (decimalDigit? c).getD 0) 0

end SchemaCompiler.Text
