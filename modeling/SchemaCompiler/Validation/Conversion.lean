import SchemaCompiler.Json.Display
import SchemaCompiler.Schema.Datatype

/-!
Exact numbers from JSON values: nothing is rounded away or cut off unseen, apart from the
rounding to the nearest double or single.
-/

namespace SchemaCompiler.Validation

open Decimal

inductive ShapeError where
  | notInteger (kind shown : String)
  | outside64Bits (value : Int) (signed : Bool)
  | notNumber (kind shown : String)
  | notFinite (shown : String)
  deriving DecidableEq, Repr

def ShapeError.message : ShapeError → String
  | .notInteger kind shown => s!"Cannot convert {kind} to integer: {shown}"
  | .outside64Bits value true => s!"{value} is not a signed 64-bit integer"
  | .outside64Bits value false => s!"{value} is not a unsigned 64-bit integer"
  | .notNumber kind shown => s!"Cannot convert {kind} to float: {shown}"
  | .notFinite shown => s!"{shown} is not a finite number"

structure OutsideRange where
  value : Int
  range : IntegerRange
  deriving DecidableEq, Repr

def OutsideRange.message (e : OutsideRange) : String :=
  s!"{e.value} is outside {e.range.minimum}..={e.range.maximum}"

inductive FloatError where
  | shape (error : ShapeError)
  | tooLargeForDouble
  deriving DecidableEq, Repr

def tooLargeForDoubleMessage : String := "int too large to convert to float"

def toInteger (signed : Bool) (value : Json) : Except ShapeError Int :=
  match value with
  | .integer n =>
    let range := if signed then IntegerRange.signed 64 else .unsigned 64
    if range.contains n then .ok n else .error (.outside64Bits n signed)
  | _ => .error (.notInteger value.kindName value.display)

def narrow (range : IntegerRange) (n : Int) : Except OutsideRange Int :=
  if range.contains n then .ok n else .error ⟨n, range⟩

def toFloat (value : Json) : Except FloatError FloatValue :=
  match value with
  | .integer n =>
    match FloatValue.ofInt? n with
    | some x => .ok x
    | none => .error .tooLargeForDouble
  | .float x => if x.isFinite then .ok x else .error (.shape (.notFinite value.display))
  | _ => .error (.shape (.notNumber value.kindName value.display))

end SchemaCompiler.Validation
