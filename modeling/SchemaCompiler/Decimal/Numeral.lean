import SchemaCompiler.Decimal.Binary
import SchemaCompiler.Text.Lines

/-!
Decimal numerals: what a number's text denotes, the digits it has, and the double nearest to it.
-/

namespace SchemaCompiler.Decimal

open Text

/-- `coefficient * 10 ^ exponent` with a sign. -/
structure Numeral where
  negative : Bool
  coefficient : Nat
  exponent : Int
  deriving DecidableEq, Repr

inductive Quantity where
  | number (value : Numeral)
  | infinity
  | notANumber

def digitLength (n : Nat) : Nat := (Nat.toDigits 10 n).length

namespace Numeral

/-- Magnitudes that no decimal may leave: the leading digit's power of ten and the last one's. -/
def highestPower : Int := 999999999999999999

def lowestPower : Int := -1999999999999999997

def inRange (n : Numeral) : Bool :=
  lowestPower ≤ n.exponent && n.exponent + digitLength n.coefficient - 1 ≤ highestPower

def readExponent? : List Char → Option Int
  | [] => some 0
  | mark :: rest =>
    if mark == 'e' || mark == 'E' then
      let (negative, digits) := match rest with
        | '-' :: ds => (true, ds)
        | '+' :: ds => (false, ds)
        | ds => (false, ds)
      if digits.isEmpty || !digits.all isDecimalDigit then none
      else
        let size : Int := decimalValue digits
        some (if negative then -size else size)
    else none

def readUnsigned? (negative : Bool) (text : List Char) : Option Numeral :=
  let whole := text.takeWhile isDecimalDigit
  let rest := text.dropWhile isDecimalDigit
  let (fraction, tail) := match rest with
    | '.' :: more => (more.takeWhile isDecimalDigit, more.dropWhile isDecimalDigit)
    | more => ([], more)
  if whole.isEmpty && fraction.isEmpty then none
  else (readExponent? tail).map fun power =>
    ⟨negative, decimalValue (whole ++ fraction), power - fraction.length⟩

/-- The whole digits of a numeral and the digits behind its point, the trailing zeros of the
fraction left out. -/
def dropFractionZeros (coefficient : Nat) : Nat → Nat × Nat
  | 0 => (coefficient, 0)
  | places + 1 =>
    if coefficient % 10 == 0 then dropFractionZeros (coefficient / 10) places
    else (coefficient, places + 1)

def digitSplit (n : Numeral) : Nat × Nat :=
  if n.coefficient == 0 then (1, 0)
  else if 0 ≤ n.exponent then (digitLength n.coefficient + n.exponent.toNat, 0)
  else
    let (coefficient, places) := dropFractionZeros n.coefficient n.exponent.natAbs
    (max (digitLength coefficient - places) 1, places)

/-- The nearest double. Magnitudes that are out of every double's reach are decided by the power
of ten alone. -/
def toDouble (n : Numeral) : FloatValue :=
  let power := n.exponent + digitLength n.coefficient
  if n.coefficient == 0 || power < -400 then .ofRatio double n.negative 0 1
  else if 400 < power then .infinite n.negative
  else if 0 ≤ n.exponent then
    .ofRatio double n.negative (n.coefficient * Nat.pow 10 n.exponent.toNat) 1
  else .ofRatio double n.negative n.coefficient (Nat.pow 10 n.exponent.natAbs)

end Numeral

namespace Quantity

def lowerAscii (text : List Char) : List Char :=
  text.map fun c => if isAsciiUpper c then Char.ofNat (c.toNat + 32) else c

def ofName? (negative : Bool) (text : List Char) : Option Quantity :=
  let name := lowerAscii (text.takeWhile fun c => !isDecimalDigit c)
  let payload := text.dropWhile fun c => !isDecimalDigit c
  if name == "inf".toList || name == "infinity".toList then
    if payload.isEmpty then some .infinity else none
  else if name == "nan".toList || name == "snan".toList then
    if payload.all isDecimalDigit then some .notANumber else none
  else (Numeral.readUnsigned? negative text).bind fun n =>
    if n.inRange then some (.number n) else none

/-- Reads a number's text. Blanks around it and underscores in it do not count. -/
def read? (text : List Char) : Option Quantity :=
  match (trim text).filter (· != '_') with
  | '-' :: rest => ofName? true rest
  | '+' :: rest => ofName? false rest
  | rest => ofName? false rest

def digitSplit : Quantity → Nat × Nat
  | .number n => n.digitSplit
  | _ => (0, 0)

end Quantity

def digitSplit? (text : List Char) : Option (Nat × Nat) :=
  (Quantity.read? text).map Quantity.digitSplit

def digitCount? (text : List Char) : Option Nat :=
  (digitSplit? text).map fun (whole, fraction) => whole + fraction

def decimalPlaces? (text : List Char) : Option Nat :=
  (digitSplit? text).map (·.2)

end SchemaCompiler.Decimal
