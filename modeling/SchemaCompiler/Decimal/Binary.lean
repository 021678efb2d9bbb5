/-!
Binary floating point in exact arithmetic: a finite value is a sign, a mantissa and a power of
two, and rounding takes a quotient of naturals to the nearest value of a format.
-/

namespace SchemaCompiler.Decimal

/-- Finite values are `m * 2 ^ e` with `m < 2 ^ precision` and `e` between the two bounds. -/
structure BinaryFormat where
  precision : Nat
  minExponent : Int
  maxExponent : Int

def double : BinaryFormat := ⟨53, -1074, 971⟩

def single : BinaryFormat := ⟨24, -149, 104⟩

inductive FloatValue where
  | finite (negative : Bool) (mantissa : Nat) (exponent : Int)
  | infinite (negative : Bool)
  | notANumber
  deriving DecidableEq, Repr, Inhabited

/-- The natural nearest to `num / den`; a half goes to the even neighbour. -/
def roundHalfEven (num den : Nat) : Nat :=
  let quotient := num / den
  let twice := 2 * (num % den)
  if twice > den || (twice == den && quotient % 2 == 1) then quotient + 1 else quotient

def scaleBinary (num den : Nat) (shift : Int) : Nat × Nat :=
  if 0 ≤ shift then (num, den * Nat.pow 2 shift.toNat)
  else (num * Nat.pow 2 (-shift).toNat, den)

def binaryExponent (num den : Nat) : Int :=
  let guess : Int := (Nat.log2 num : Int) - (Nat.log2 den : Int)
  let (n, d) := scaleBinary num den guess
  if d ≤ n then guess else guess - 1

def roundRatio (format : BinaryFormat) (num den : Nat) : Option (Nat × Int) :=
  if num == 0 then some (0, format.minExponent) else
    let exponent := max (binaryExponent num den - format.precision + 1) format.minExponent
    let (n, d) := scaleBinary num den exponent
    let rounded := roundHalfEven n d
    let (mantissa, exponent) :=
      if rounded == Nat.pow 2 format.precision then
        (Nat.pow 2 (format.precision - 1), exponent + 1)
      else (rounded, exponent)
    if format.maxExponent < exponent then none else some (mantissa, exponent)

def ratioOf (mantissa : Nat) (exponent : Int) : Nat × Nat :=
  if 0 ≤ exponent then (mantissa * Nat.pow 2 exponent.toNat, 1)
  else (mantissa, Nat.pow 2 (-exponent).toNat)

namespace FloatValue

def ofRatio (format : BinaryFormat) (negative : Bool) (num den : Nat) : FloatValue :=
  match roundRatio format num den with
  | some (mantissa, exponent) => .finite negative mantissa exponent
  | none => .infinite negative

def isFinite : FloatValue → Bool
  | .finite .. => true
  | _ => false

def ofInt? (n : Int) : Option FloatValue :=
  (roundRatio double n.natAbs 1).map fun (mantissa, exponent) =>
    .finite (n < 0) mantissa exponent

/-- The nearest single, held as a double. Nothing when a finite value is too large. -/
def toSingle? : FloatValue → Option FloatValue
  | .finite negative mantissa exponent =>
    let (num, den) := ratioOf mantissa exponent
    match roundRatio single num den with
    | some (m, e) =>
      let (n, d) := ratioOf m e
      some (.ofRatio double negative n d)
    | none => none
  | value => some value

end FloatValue

end SchemaCompiler.Decimal
