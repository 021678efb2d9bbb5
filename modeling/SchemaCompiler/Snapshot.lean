import SchemaCompiler.Json.Reader
import SchemaCompiler.Json.Writer
import SchemaCompiler.Schema.Stored

/-!
Snapshots: databases as JSON text. Attributes that are not set are left out, and reading checks
every field's consistency.
-/

namespace SchemaCompiler.Snapshot

inductive Corruption where
  | missingKey (key : String)
  | unknownDatatype (shown : String)
  | inconsistent (error : InternalError)
  /-- A value of this kind stands where an object is looked into. -/
  | notAnObject (kind : String)
  /-- A value of this kind stands where items are gone through. -/
  | notASequence (kind : String)
  | notAScalar (kind : String)
  deriving DecidableEq, Repr

def shapeError (message : String) : String := s!"TypeError({Text.showQuoted message})"

def Corruption.display : Corruption → String
  | .missingKey key => s!"KeyError({Text.showQuoted key})"
  | .unknownDatatype shown =>
    let message := shown ++ " is not a valid DataType"
    s!"ValueError({Text.showQuoted message})"
  | .inconsistent error => s!"InternalError({Text.showQuoted error.message})"
  | .notAnObject "list" => shapeError "list indices must be integers or slices, not str"
  | .notAnObject "str" => shapeError "string indices must be integers, not 'str'"
  | .notAnObject kind => shapeError s!"'{kind}' object is not subscriptable"
  | .notASequence kind => shapeError s!"'{kind}' object is not iterable"
  | .notAScalar kind => shapeError s!"unhashable type: '{kind}'"

inductive Failure where
  | notJson (detail : String)
  | corrupt (corruption : Corruption)
  /-- A field that is no object ends the reading at once. -/
  | fieldNotObject
  | integerTooLong
  deriving DecidableEq, Repr

/-- The wording of the failures that make a snapshot unusable; the others are none of its
content. -/
def Failure.message? : Failure → Option String
  | .notJson detail => some s!"schema snapshot is not valid JSON: {detail}"
  | .corrupt corruption => some s!"corrupt schema snapshot: {corruption.display}"
  | .fieldNotObject => none
  | .integerTooLong => none

/-! Writing -/

def attributes (f : Stored.Field) : List (WideText × Json) := [
  ("title", f.title.toJson),
  ("datatype", .string f.datatype.name),
  ("bytes", f.bytes),
  ("characters", f.characters),
  ("decimals", f.decimals),
  ("regex", f.regex),
  ("primary", f.primary),
  ("unique", f.unique),
  ("required", f.required),
  ("foreign", f.foreign),
  ("increment", f.increment),
  ("generated", f.generated),
  ("enum_set", Stored.orNull .array f.labels),
  ("set", Stored.orNull (fun s => .array (s.toList.map Scalar.toJson)) f.members)]

def ofField (f : Stored.Field) : Json :=
  .object ((attributes f).filter fun (_, value) => !value.isNull)

def ofTable (t : Stored.Table) : Json :=
  .object [("title", t.title.toJson), ("fields", .array (t.fields.entries.map ofField))]

def ofDatabase (db : Stored.Database) : Json :=
  .object [("title", db.title), ("tables", .array (db.tables.entries.map ofTable))]

/-- The text of a database whose sets can be put in order. -/
def textOf (db : Stored.Database) : String := (ofDatabase db).indented

def isOrdered (db : Stored.Database) : Bool :=
  db.tables.entries.all fun t => t.fields.entries.all fun f => f.members.all (·.isOrdered)

def dump? (db : Stored.Database) : Option String := if isOrdered db then some (textOf db) else none

/-! Reading -/

abbrev Read (α : Type) := Except Failure α

def corrupt {α : Type} (corruption : Corruption) : Read α := .error (.corrupt corruption)

def required (key : String) : Json → Read Json
  | .object members =>
    match Json.member? key members with
    | some value => .ok value
    | none => corrupt (.missingKey key)
  | value => corrupt (.notAnObject value.kindName)

def asScalar (value : Json) : Read Scalar :=
  match Scalar.ofJson? value with
  | some scalar => .ok scalar
  | none => corrupt (.notAScalar value.kindName)

/-- What can be gone through one by one: the items of an array, the keys of an object, the
characters of a string. -/
def elements : Json → Read (List Json)
  | .array items => .ok items
  | .object members => .ok (members.map fun (key, _) => .string key)
  | .string s => .ok (s.points.map fun point => .string (.ofPoints [point]))
  | value => corrupt (.notASequence value.kindName)

def toSet (value : Json) : Read ScalarSet := do
  return .ofList (← (← elements value).mapM asScalar)

def unlessNull {α : Type} (convert : Json → Read α) (value : Json) : Read (Option α) :=
  if value.isNull then .ok none else (convert value).map some

def toDatatype (value : Json) : Read Datatype :=
  match value with
  | .string (.plain name) =>
    match Datatype.ofName? name with
    | some d => .ok d
    | none => corrupt (.unknownDatatype value.display)
  | _ => corrupt (.unknownDatatype value.display)

def checked (title : String) (datatype : Datatype) (labelled membered : Bool) : Read Unit :=
  match consistency title s!"{title} ({datatype.name})" datatype labelled membered with
  | .ok () => .ok ()
  | .error e => corrupt (.inconsistent e)

def valueAt (members : List (WideText × Json)) (key : String) : Json :=
  (Json.member? key members).getD .null

def flagAt (members : List (WideText × Json)) (key : String) : Json :=
  (Json.member? key members).getD (.bool false)

/-- A title is shown, if need be, before it is made sure to be a scalar. -/
def toField (value : Json) : Read Stored.Field :=
  match value with
  | .object members => do
    let title ← required "title" value
    let datatype ← toDatatype (← required "datatype" value)
    let labels ← unlessNull elements (valueAt members "enum_set")
    let set ← unlessNull toSet (valueAt members "set")
    checked title.shown datatype labels.isSome set.isSome
    return {
      title := ← asScalar title
      datatype, labels
      members := set
      bytes := valueAt members "bytes"
      characters := valueAt members "characters"
      decimals := valueAt members "decimals"
      regex := valueAt members "regex"
      primary := flagAt members "primary"
      unique := flagAt members "unique"
      required := flagAt members "required"
      foreign := valueAt members "foreign"
      increment := flagAt members "increment"
      generated := flagAt members "generated" }
  | _ => .error .fieldNotObject

/-- As a field, a table is made before it is added under its title. -/
def toTable (value : Json) : Read Stored.Table := do
  let title ← required "title" value
  let fields ← (← elements (← required "fields" value)).mapM toField
  return { title := ← asScalar title, fields := .ofList fields }

def toDatabase (value : Json) : Read Stored.Database := do
  let title ← required "title" value
  let tables ← (← elements (← required "tables" value)).mapM toTable
  return tables.foldl Stored.Database.add { title }

def load (text : String) : Read Stored.Database :=
  match Json.read text.toList with
  | .ok value => toDatabase value
  | .error (.malformed fault left) => .error (.notJson (Json.faultMessage text.toList fault left))
  | .error .integerTooLong => .error .integerTooLong

end SchemaCompiler.Snapshot
