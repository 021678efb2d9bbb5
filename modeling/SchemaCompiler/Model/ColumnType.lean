import SchemaCompiler.Json.Writer
import SchemaCompiler.Schema.Field

/-!
Column types of the object model, their expressions and the types of their values.
-/

namespace SchemaCompiler.Model

inductive ColumnType where
  | string (length : Option Int)
  | largeBinary (length : Option Int)
  | json
  | bigInteger
  | integer
  | smallInteger
  | double
  | float
  | boolean
  | enum (labels : List String)
  deriving DecidableEq, Repr

structure ValueType where
  module : String
  name : String
  expression : String
  deriving DecidableEq, Repr

namespace ColumnType

def ofField (f : Field) : Except InternalError ColumnType :=
  match f.datatype with
  | .string => .ok (string f.characters)
  | .set => .ok (string f.characters)
  | .byteString => .ok (largeBinary f.bytes)
  | .json => .ok json
  | .signed64 => .ok bigInteger
  | .unsigned64 => .ok bigInteger
  | .signed32 => .ok integer
  | .unsigned32 => .ok integer
  | .signed16 => .ok smallInteger
  | .unsigned16 => .ok smallInteger
  | .byte => .ok smallInteger
  | .float64 => .ok double
  | .float32 => .ok float
  | .boolean => .ok boolean
  | .bit => .ok boolean
  | .enum =>
    match f.labels with
    | some labels => .ok (enum labels)
    | none => .error (.noLabels f.title)

def className : ColumnType → String
  | string _ => "String"
  | largeBinary _ => "LargeBinary"
  | json => "JSON"
  | bigInteger => "BigInteger"
  | integer => "Integer"
  | smallInteger => "SmallInteger"
  | double => "Double"
  | float => "Float"
  | boolean => "Boolean"
  | enum _ => "Enum"

/-- A length of zero counts as none. -/
def withLength (name : String) : Option Int → String
  | some length => if length == 0 then name else s!"{name}({length})"
  | none => name

def quotedLabels (labels : List String) : String :=
  ", ".intercalate (labels.map fun (label : String) => Json.quoted label)

def expression (type : ColumnType) : String :=
  match type with
  | string length => withLength type.className length
  | largeBinary length => withLength type.className length
  | enum labels => type.className ++ "(" ++ quotedLabels labels ++ ")"
  | _ => type.className

def builtin (name : String) : ValueType := ⟨"builtins", name, name⟩

def valueType : ColumnType → ValueType
  | string _ => builtin "str"
  | largeBinary _ => builtin "bytes"
  | json => ⟨"typing", "Any", "dict[str, Any]"⟩
  | bigInteger => builtin "int"
  | integer => builtin "int"
  | smallInteger => builtin "int"
  | double => builtin "float"
  | float => builtin "float"
  | boolean => builtin "bool"
  | enum labels => ⟨"typing", "Literal", "Literal[" ++ quotedLabels labels ++ "]"⟩

end ColumnType

end SchemaCompiler.Model
