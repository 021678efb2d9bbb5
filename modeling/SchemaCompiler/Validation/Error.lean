import SchemaCompiler.Schema.Field
import SchemaCompiler.Validation.Conversion

/-!
Why a payload is rejected.
-/

namespace SchemaCompiler.Validation

open Decimal

inductive Overflow where
  | integer (error : OutsideRange)
  | single (value : FloatValue)
  deriving DecidableEq, Repr

def Overflow.message : Overflow → String
  | .integer error => error.message
  | .single value => (TooLargeForSingle.mk value).message

inductive Violation where
  | shape
  | width (overflow : Overflow)
  | size (limit : Int) (found : Nat)
  | bytes (label : String) (limit : Int) (found : Nat)
  | decimals (limit : Int) (found : Nat)
  | pattern (regex : String)
  | notABit (value : Int)
  | enumIndex (index : Int) (count : Nat)
  | notAMember (member : String)
  deriving DecidableEq, Repr

inductive ErrorKind where
  | cast
  | narrowing
  | bound
  | domain
  | required
  deriving DecidableEq, Repr

def Violation.kind : Violation → ErrorKind
  | .shape => .cast
  | .width _ => .narrowing
  | .enumIndex .. => .domain
  | .notAMember _ => .domain
  | _ => .bound

inductive ValidationError where
  | value (field : String) (datatype : Datatype) (violation : Violation)
  | missing (field : String) (datatype : Datatype) (table : String)
  /-- The payload itself is neither an object nor a list. -/
  | payload (table kind : String)
  deriving DecidableEq, Repr

namespace ValidationError

def kind : ValidationError → ErrorKind
  | value _ _ violation => violation.kind
  | missing .. => .required
  | payload .. => .cast

def message : ValidationError → String
  | value field datatype .shape =>
    s!"Field {field} is not of type {datatype.name}. (JSON cast failed)."
  | value field datatype (.width overflow) =>
    s!"Field {field} is over the byte limit for type {datatype.name}: {overflow.message}."
  | value field _ (.size limit found) =>
    s!"Field {field} is over the size limit of {limit}. (Size: {found})."
  | value field _ (.bytes label limit found) =>
    s!"{label} {field} is over the byte limit of {limit}. (Bytes: {found})."
  | value field _ (.decimals limit found) =>
    s!"Field {field} has {found} decimal places; the limit is {limit}."
  | value field _ (.pattern regex) =>
    s!"Field {field} failed to match the regex restriction of {regex}."
  | value field _ (.notABit n) => s!"Expected {field} to be a bit (0 or 1), but got {n}."
  | value field _ (.enumIndex index count) =>
    s!"Expected {index} to be within the enum range 0..{count} of field {field}."
  | value field _ (.notAMember member) =>
    s!"Value {member} is not an element of the set of field {field}."
  | missing field _ table =>
    s!"The {field} field is required in {table}, but was not included in the request."
  | payload table kind =>
    s!"Payload for {table} must be an object or a list of objects, got {kind}."

def subject? : ValidationError → Option (String × Datatype)
  | value field datatype _ => some (field, datatype)
  | missing field datatype _ => some (field, datatype)
  | payload .. => none

end ValidationError

/-- How a validation fails: by the value, by the design, or in a way that neither of them
accounts for. -/
inductive Failure where
  | invalid (error : ValidationError)
  | internal (error : InternalError)
  | unknownTable (title : String)
  | tooLargeForDouble
  | tooLargeForSingle (value : FloatValue)
  | repetitionTooLarge
  /-- The regex of the field cannot be read for another reason than its text. -/
  | unreadableRegex
  /-- A text has no bytes that could be counted. -/
  | unencodable
  deriving DecidableEq, Repr

def unknownTableMessage (title : String) : String :=
  s!"Table {title} does not exist in this database."

end SchemaCompiler.Validation
