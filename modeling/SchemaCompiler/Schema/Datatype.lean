/-!
The datatypes of columns and the ranges of the integer ones.
-/

namespace SchemaCompiler

inductive Datatype where
  | string
  | byteString
  | json
  | signed64
  | unsigned64
  | signed32
  | unsigned32
  | signed16
  | unsigned16
  | float64
  | float32
  | boolean
  | bit
  | byte
  | enum
  | set
  deriving DecidableEq, Repr, Inhabited

namespace Datatype

def name : Datatype → String
  | string => "string"
  | byteString => "byte_string"
  | json => "json"
  | signed64 => "signed64"
  | unsigned64 => "unsigned64"
  | signed32 => "signed32"
  | unsigned32 => "unsigned32"
  | signed16 => "signed16"
  | unsigned16 => "unsigned16"
  | float64 => "float64"
  | float32 => "float32"
  | boolean => "boolean"
  | bit => "bit"
  | byte => "byte"
  | enum => "enum"
  | set => "set"

def all : List Datatype :=
  [string, byteString, json, signed64, unsigned64, signed32, unsigned32, signed16, unsigned16,
    float64, float32, boolean, bit, byte, enum, set]

def ofName? (text : String) : Option Datatype := all.find? (·.name == text)

theorem ofName?_name (d : Datatype) : ofName? d.name = some d := by cases d <;> decide

end Datatype

structure IntegerRange where
  minimum : Int
  maximum : Int
  deriving DecidableEq, Repr

namespace IntegerRange

def contains (range : IntegerRange) (n : Int) : Bool :=
  range.minimum ≤ n && n ≤ range.maximum

def span (bits : Nat) : Int := Nat.pow 2 bits

def signed (bits : Nat) : IntegerRange := ⟨-span (bits - 1), span (bits - 1) - 1⟩

def unsigned (bits : Nat) : IntegerRange := ⟨0, span bits - 1⟩

end IntegerRange

namespace Datatype

/-- The range that a whole number is narrowed to. Bits are held in a byte and enum indexes in
32 bits. -/
def range? : Datatype → Option IntegerRange
  | signed64 => some (.signed 64)
  | unsigned64 => some (.unsigned 64)
  | signed32 => some (.signed 32)
  | unsigned32 => some (.unsigned 32)
  | signed16 => some (.signed 16)
  | unsigned16 => some (.unsigned 16)
  | byte => some (.unsigned 8)
  | bit => some (.unsigned 8)
  | enum => some (.unsigned 32)
  | _ => none

def isSigned : Datatype → Bool
  | signed64 | signed32 | signed16 => true
  | _ => false

end Datatype

end SchemaCompiler
