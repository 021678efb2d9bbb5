import SchemaCompiler.Json.Display
import SchemaCompiler.Schema.LabelSet

/-!
Scalars: the JSON values that can be titles and members of sets. Numbers of all kinds are equal
when their values are, and truth values count as the numbers one and zero.
-/

namespace SchemaCompiler

open Decimal

inductive Scalar where
  | null
  | bool (value : Bool)
  | integer (value : Int)
  | float (value : FloatValue)
  | text (value : WideText)
  deriving DecidableEq

namespace Scalar

instance : Coe String Scalar := ⟨fun value => .text value⟩

def toJson : Scalar → Json
  | null => .null
  | bool value => .bool value
  | integer value => .integer value
  | float value => .float value
  | text value => .string value

def ofJson? : Json → Option Scalar
  | .null => some null
  | .bool value => some (bool value)
  | .integer value => some (integer value)
  | .float value => some (float value)
  | .string value => some (text value)
  | .array _ => none
  | .object _ => none

theorem ofJson?_toJson (scalar : Scalar) : ofJson? scalar.toJson = some scalar := by
  cases scalar <;> rfl

def leastDoubles : Int := Nat.pow 2 1074

/-- Scalars are equal when their keys are, and those of one kind are ordered as their keys are. -/
def key : Scalar → List Int
  | null => [0]
  | bool value => [2, if value then leastDoubles else 0]
  | integer value => [2, value * leastDoubles]
  | float (.finite negative mantissa exponent) =>
    let size : Int := mantissa * Nat.pow 2 (exponent + 1074).toNat
    [2, if negative then -size else size]
  | float (.infinite negative) => [if negative then 1 else 3]
  | float .notANumber => [4]
  | text value => 5 :: value.points.map fun point => (point.code : Int)

def isNumber : Scalar → Bool
  | bool _ | integer _ | float _ => true
  | _ => false

def isText : Scalar → Bool
  | text _ => true
  | _ => false

def shown (scalar : Scalar) : String := scalar.toJson.shown

end Scalar

structure ScalarSet where
  toList : List Scalar
  increasing : toList.Pairwise fun a b => a.key < b.key

namespace ScalarSet

theorem ext {a b : ScalarSet} (h : a.toList = b.toList) : a = b := by
  cases a; cases b; cases h; rfl

def insert (member : Scalar) (s : ScalarSet) : ScalarSet :=
  ⟨insertBy Scalar.key member s.toList, pairwise_insertBy s.increasing⟩

def empty : ScalarSet := ⟨[], .nil⟩

def ofList (scalars : List Scalar) : ScalarSet := scalars.foldr insert empty

/-- Only members of one kind can be put in order. A single one needs none. -/
def isOrdered (s : ScalarSet) : Bool :=
  s.toList.length < 2 || s.toList.all Scalar.isNumber || s.toList.all Scalar.isText

end ScalarSet

end SchemaCompiler
