import SchemaCompiler.Pattern.Match
import SchemaCompiler.Validation.Error

/-!
Extracting typed values from JSON: shape first, then width, then the bounds of the field.
-/

namespace SchemaCompiler

open Decimal

inductive Value where
  | text (text : String)
  | bytes (bytes : List UInt8)
  | object (members : List (WideText × Json))
  | integer (value : Int)
  | float (value : FloatValue)
  | boolean (value : Bool)

structure TypedValue where
  datatype : Datatype
  value : Value

namespace Validation

abbrev Check (α : Type) := Except Failure α

def reject {α : Type} (f : Field) (violation : Violation) : Check α :=
  .error (.invalid (.value f.title f.datatype violation))

def design {α : Type} (error : InternalError) : Check α := .error (.internal error)

def integerOf (f : Field) (signed : Bool) (value : Json) : Check Int :=
  match toInteger signed value with
  | .ok n => .ok n
  | .error _ => reject f .shape

def floatOf (f : Field) (value : Json) : Check FloatValue :=
  match toFloat value with
  | .ok x => .ok x
  | .error (.shape _) => reject f .shape
  | .error .tooLargeForDouble => .error .tooLargeForDouble

def narrowTo (f : Field) (range : IntegerRange) (n : Int) : Check Int :=
  match narrow range n with
  | .ok n => .ok n
  | .error e => reject f (.width (.integer e))

def singleOf (f : Field) (x : FloatValue) : Check FloatValue :=
  match toSingle x with
  | .ok narrowed => .ok narrowed
  | .error e => reject f (.width (.single e.value))

def checkSize (f : Field) (size : Nat) : Check Unit :=
  match f.characters with
  | some limit => if limit < size then reject f (.size limit size) else .ok ()
  | none => .ok ()

def checkBytes (f : Field) (label : String) (size : Nat) : Check Unit :=
  match f.bytes with
  | some limit => if limit < size then reject f (.bytes label limit size) else .ok ()
  | none => .ok ()

def checkDigits (f : Field) (text : List Char) : Check Unit := do
  let (whole, places) := (digitSplit? text).getD (0, 0)
  checkSize f (whole + places)
  match f.decimals with
  | some limit => if limit < places then reject f (.decimals limit places) else .ok ()
  | none => .ok ()

def checkPattern [Pattern.CharacterNames] (f : Field) (text : String) : Check Unit :=
  match f.regex with
  | none => .ok ()
  | some regex =>
    match Pattern.fullMatch regex.toList text.toList with
    | .ok true => .ok ()
    | .ok false => reject f (.pattern regex)
    | .error (.malformed reason position) =>
      design (.invalidRegex f.title regex (Pattern.faultMessage regex.toList reason position))
    | .error .repetitionTooLarge => .error .repetitionTooLarge
    | .error _ => .error .unreadableRegex

def textOf (f : Field) (value : Json) : Check WideText :=
  match value with
  | .string s => .ok s
  | _ => reject f .shape

def encodable : WideText → Check String
  | .plain text => .ok text
  | .broken _ => .error .unencodable

def byteOf (f : Field) (item : Json) : Check UInt8 := do
  let n ← integerOf f false item
  let n ← narrowTo f (.unsigned 8) n
  return UInt8.ofNat n.toNat

def extractText [Pattern.CharacterNames] (f : Field) (value : Json) : Check Value := do
  let text ← textOf f value
  checkSize f text.length
  let text ← encodable text
  checkBytes f "Field" text.utf8ByteSize
  checkPattern f text
  return .text text

def extractBytes (f : Field) (value : Json) : Check Value :=
  match value with
  | .array items => do
    let bytes ← items.mapM (byteOf f)
    checkBytes f "Bytestring" bytes.length
    return .bytes bytes
  | _ => reject f .shape

def extractInteger (f : Field) (range : IntegerRange) (value : Json) : Check Value := do
  let n ← integerOf f f.datatype.isSigned value
  let n ← narrowTo f range n
  checkDigits f (toString n).toList
  return .integer n

def extractDouble (f : Field) (value : Json) : Check Value := do
  let x ← floatOf f value
  checkDigits f (shortestText x)
  return .float x

def extractSingle (f : Field) (value : Json) : Check Value := do
  let x ← floatOf f value
  let x ← singleOf f x
  match singleText x with
  | .error e => .error (.tooLargeForSingle e.value)
  | .ok text =>
    checkDigits f text
    return .float x

def extractBit (f : Field) (value : Json) : Check Value := do
  let n ← integerOf f false value
  if n == 0 || n == 1 then return .integer n else reject f (.notABit n)

def extractIndex (f : Field) (value : Json) : Check Value := do
  let n ← integerOf f false value
  let n ← narrowTo f (.unsigned 32) n
  match f.labels with
  | none => design (.enumWithoutLabels f.title)
  | some labels =>
    if labels.length ≤ n then reject f (.enumIndex n labels.length) else return .integer n

/-- Text with a half of a pair is no member of any set. -/
def extractMember (f : Field) (value : Json) : Check Value := do
  let text ← textOf f value
  let member := Text.lower text.shown
  match f.members with
  | none => design (.setWithoutMembers f.title)
  | some members =>
    if text.isPlain && members.contains member then return .text member
    else reject f (.notAMember member)

def extractValue [Pattern.CharacterNames] (f : Field) (value : Json) : Check Value :=
  match f.datatype with
  | .string => extractText f value
  | .byteString => extractBytes f value
  | .json =>
    match value with
    | .object members => return .object members
    | _ => reject f .shape
  | .signed64 => extractInteger f (.signed 64) value
  | .unsigned64 => extractInteger f (.unsigned 64) value
  | .signed32 => extractInteger f (.signed 32) value
  | .unsigned32 => extractInteger f (.unsigned 32) value
  | .signed16 => extractInteger f (.signed 16) value
  | .unsigned16 => extractInteger f (.unsigned 16) value
  | .byte => extractInteger f (.unsigned 8) value
  | .float64 => extractDouble f value
  | .float32 => extractSingle f value
  | .boolean =>
    match value with
    | .bool b => return .boolean b
    | _ => reject f .shape
  | .bit => extractBit f value
  | .enum => extractIndex f value
  | .set => extractMember f value

end Validation

def Field.extract [Pattern.CharacterNames] (f : Field) (value : Json) :
    Validation.Check TypedValue :=
  match f.checkConsistency with
  | .error e => Validation.design e
  | .ok () => (Validation.extractValue f value).map fun v => ⟨f.datatype, v⟩

end SchemaCompiler
