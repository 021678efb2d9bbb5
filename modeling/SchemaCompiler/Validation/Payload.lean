import SchemaCompiler.Schema.Database
import SchemaCompiler.Validation.Extract

/-!
Validating whole payloads: one object, or a list of fragments of which the first that holds a
title decides.
-/

namespace SchemaCompiler

namespace Validation

def fragments? : Json → Option (List Json)
  | .object members => some [.object members]
  | .array items => some items
  | _ => none

/-- The value of a title in the first fragment that has it. Fragments that are no objects have
none. -/
def valueIn? (title : String) : List Json → Option Json
  | [] => none
  | .object members :: rest =>
    match Json.member? title members with
    | some value => some value
    | none => valueIn? title rest
  | _ :: rest => valueIn? title rest

/-- Values that input may leave out because the system assigns them. -/
def excused (isInput : Bool) (f : Field) : Bool := !f.required || (isInput && f.generated)

variable [Pattern.CharacterNames]

def validateFields (table : String) (isInput : Bool) (fragments : List Json) :
    List Field → Check (List (String × TypedValue))
  | [] => .ok []
  | f :: rest =>
    match valueIn? f.title fragments with
    | some value => do
      let extracted ← f.extract value
      let others ← validateFields table isInput fragments rest
      return (f.title, extracted) :: others
    | none =>
      if excused isInput f then validateFields table isInput fragments rest
      else .error (.invalid (.missing f.title f.datatype table))

end Validation

variable [Pattern.CharacterNames]

def Table.validate (t : Table) (payload : Json) (isInput : Bool) :
    Validation.Check (List (String × TypedValue)) :=
  match Validation.fragments? payload with
  | none => .error (.invalid (.payload t.title payload.kindName))
  | some fragments => Validation.validateFields t.title isInput fragments t.fields.entries

def Database.validate (db : Database) (table : String) (payload : Json) (isInput : Bool) :
    Validation.Check (List (String × TypedValue)) :=
  match db.table? table with
  | some t => t.validate payload isInput
  | none => .error (.unknownTable table)

/-- The form of an extracted value that validates again: byte strings become lists of numbers. -/
def Value.toJson : Value → Json
  | .text s => .string s
  | .bytes content => .array (content.map fun b => .integer b.toNat)
  | .object members => .object members
  | .integer n => .integer n
  | .float x => .float x
  | .boolean b => .bool b

def serialize (values : List (String × TypedValue)) : Json :=
  .object (values.map fun (title, v) => (.plain title, v.value.toJson))

end SchemaCompiler
