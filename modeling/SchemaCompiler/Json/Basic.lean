import SchemaCompiler.Decimal.Shortest
import SchemaCompiler.Text.WideText

/-!
JSON values. Integers are exact and kept apart from numbers written with a fraction or an
exponent, which are doubles; an object keeps its members in order, no key twice.
-/

namespace SchemaCompiler

inductive Json where
  | null
  | bool (value : Bool)
  | integer (value : Int)
  | float (value : Decimal.FloatValue)
  | string (value : WideText)
  | array (items : List Json)
  | object (members : List (WideText × Json))
  deriving Inhabited

namespace Json

def isNull : Json → Bool
  | null => true
  | _ => false

def isTrue : Json → Bool
  | null => false
  | bool value => value
  | integer value => value != 0
  | float (.finite _ mantissa _) => mantissa != 0
  | float _ => true
  | string value => value != .plain ""
  | array items => !items.isEmpty
  | object members => !members.isEmpty

mutual

def isPlain : Json → Bool
  | string value => value.isPlain
  | array items => arePlain items
  | object members => havePlain members
  | _ => true

def arePlain : List Json → Bool
  | [] => true
  | item :: rest => item.isPlain && arePlain rest

def havePlain : List (WideText × Json) → Bool
  | [] => true
  | (key, value) :: rest => key.isPlain && value.isPlain && havePlain rest

end

def member? (key : WideText) (members : List (WideText × Json)) : Option Json :=
  members.lookup key

end Json

end SchemaCompiler
