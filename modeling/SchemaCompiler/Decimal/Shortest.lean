import SchemaCompiler.Decimal.Numeral

/-!
The written forms of floating point values: the fewest digits that read back as the same double,
and a given number of significant digits.
-/

namespace SchemaCompiler.Decimal

open Text

def scaleDecimal (num den : Nat) (power : Int) : Nat × Nat :=
  if 0 ≤ power then (num, den * Nat.pow 10 power.toNat)
  else (num * Nat.pow 10 (-power).toNat, den)

def leadingPower (num den : Nat) : Int :=
  let guess : Int := (digitLength num : Int) - (digitLength den : Int)
  let (n, d) := scaleDecimal num den guess
  if d ≤ n then guess else guess - 1

structure Digits where
  digits : List Char
  power : Int

def Digits.ofCoefficient (coefficient : Nat) (exponent : Int) : Digits :=
  let all := Nat.toDigits 10 coefficient
  let kept := (all.reverse.dropWhile (· == '0')).reverse
  ⟨kept, exponent + all.length - 1⟩

/-- The point of the decimal grid with unit `10 ^ power` that reads back as the double: of its
two neighbours on the grid the nearer one if both do, a half going to the even one. -/
def readsBackOn? (mantissa : Nat) (exponent power : Int) : Option Nat :=
  let (num, den) := ratioOf mantissa exponent
  let (n, d) := scaleDecimal num den power
  let readsBack (c : Nat) : Bool :=
    Numeral.toDouble ⟨false, c, power⟩ == .finite false mantissa exponent
  let below := n / d
  let nearest := roundHalfEven n d
  let other := if nearest == below then below + 1 else below
  if readsBack nearest then some nearest
  else if readsBack other then some other
  else none

/-- The first grid with a point that reads back, from one digit on. Seventeen digits always
suffice for a double. -/
def shortestFrom (mantissa : Nat) (exponent leading : Int) : (count fuel : Nat) → Digits
  | _, 0 => ⟨['0'], 0⟩
  | count, fuel + 1 =>
    let power := leading - count
    match readsBackOn? mantissa exponent power with
    | some coefficient => .ofCoefficient coefficient power
    | none => shortestFrom mantissa exponent leading (count + 1) fuel

def shortestDigits (mantissa : Nat) (exponent : Int) : Digits :=
  let (num, den) := ratioOf mantissa exponent
  shortestFrom mantissa exponent (leadingPower num den) 0 18

def significantDigits (count : Nat) (mantissa : Nat) (exponent : Int) : Digits :=
  let (num, den) := ratioOf mantissa exponent
  let power := leadingPower num den - count + 1
  let (n, d) := scaleDecimal num den power
  .ofCoefficient (roundHalfEven n d) power

/-- How digits become text: below which power of ten an exponent is written, and whether whole
numbers keep a fractional zero. -/
structure FloatFormat where
  positionalBelow : Int
  fractionalZero : Bool

def exponentText (power : Int) : List Char :=
  let digits := Nat.toDigits 10 power.natAbs
  'e' :: (if power < 0 then '-' else '+') :: (if digits.length < 2 then '0' :: digits else digits)

def zeros (count : Nat) : List Char := List.replicate count '0'

def positionalText (format : FloatFormat) (d : Digits) : List Char :=
  if d.power < 0 then '0' :: '.' :: zeros (d.power.natAbs - 1) ++ d.digits
  else
    let wholeLength := d.power.toNat + 1
    let whole := d.digits.take wholeLength ++ zeros (wholeLength - d.digits.length)
    match d.digits.drop wholeLength with
    | [] => if format.fractionalZero then whole ++ ['.', '0'] else whole
    | fraction => whole ++ '.' :: fraction

def scientificText (d : Digits) : List Char :=
  (match d.digits with
    | first :: second :: rest => first :: '.' :: second :: rest
    | single => single) ++ exponentText d.power

def digitsText (format : FloatFormat) (d : Digits) : List Char :=
  if -4 ≤ d.power && d.power < format.positionalBelow then positionalText format d
  else scientificText d

def withSign (negative : Bool) (text : List Char) : List Char :=
  if negative then '-' :: text else text

def floatText (format : FloatFormat) (digitsOf : Nat → Int → Digits) : FloatValue → List Char
  | .notANumber => "nan".toList
  | .infinite negative => withSign negative "inf".toList
  | .finite negative 0 _ =>
    withSign negative (if format.fractionalZero then "0.0".toList else "0".toList)
  | .finite negative mantissa exponent =>
    withSign negative (digitsText format (digitsOf mantissa exponent))

def shortestText (value : FloatValue) : List Char :=
  floatText ⟨16, true⟩ shortestDigits value

def significantText (count : Nat) (value : FloatValue) : List Char :=
  floatText ⟨count, false⟩ (significantDigits count) value

structure TooLargeForSingle where
  value : FloatValue

def TooLargeForSingle.message (e : TooLargeForSingle) : String :=
  String.ofList (shortestText e.value) ++ " is too large for a 32-bit float"

def toSingle (value : FloatValue) : Except TooLargeForSingle FloatValue :=
  match value.toSingle? with
  | some narrowed => .ok narrowed
  | none => .error ⟨value⟩

def readFloat (text : List Char) : FloatValue :=
  match Quantity.read? text with
  | some (.number n) => n.toDouble
  | some .infinity => .infinite (text.head? == some '-')
  | _ => .notANumber

def singleTextFrom (value : FloatValue) :
    (precision fuel : Nat) → Except TooLargeForSingle (List Char)
  | _, 0 => .ok (shortestText value)
  | precision, fuel + 1 => do
    let text := significantText precision value
    let back ← toSingle (readFloat text)
    if back == value then .ok text else singleTextFrom value (precision + 1) fuel

/-- The text of a single: the fewest significant digits, up to nine, that read back as it. -/
def singleText (value : FloatValue) : Except TooLargeForSingle (List Char) :=
  singleTextFrom value 1 9

end SchemaCompiler.Decimal
