import SchemaCompiler.Json.Writer
import SchemaCompiler.Naming
import SchemaCompiler.Schema.Database

/-!
TypeScript declarations of tables: an interface of stored records, one of input, and the enums
that both refer to.
-/

namespace SchemaCompiler.TypeScript

open Text

structure Property where
  name : String
  type : String
  storedOptional : Bool
  inputOptional : Bool
  deriving DecidableEq, Repr

structure EnumDeclaration where
  name : String
  members : List String
  deriving DecidableEq, Repr

structure Module where
  table : String
  interface : String
  properties : List Property
  enums : List EnumDeclaration
  deriving DecidableEq, Repr

def enumName (table field : WideText) : Except InternalError String := do
  return (← Naming.pascalCase table) ++ (← Naming.pascalCase field) ++ "Enum"

def isPlainName (name : String) : Bool :=
  match name.toList with
  | [] => false
  | c :: rest =>
    (isAsciiLetter c || c == '_' || c == '$') && rest.all fun c => isWordChar c || c == '$'

def quoteName : WideText → String
  | .plain name => if isPlainName name then name else Json.quoted name
  | name => Json.quoted name

def startsLikeNumber (label : String) : Bool :=
  match label.toList with
  | [] => false
  | c :: _ => isAsciiDigit c || c == '+' || c == '-' || c == '.'

def memberName : WideText → String
  | .plain label => quoteName (.plain (if startsLikeNumber label then "_" ++ label else label))
  | label =>
    quoteName <|
      if startsLikeNumber label.shown then .ofPoints (.char '_' :: label.points) else label

/-- Renders labels in order, behind those already rendered; no two may come out alike. -/
def addMembers (enum : String) (before : List String) :
    List String → Except InternalError (List String)
  | [] => .ok before
  | label :: rest =>
    let member := memberName label
    if before.contains member then .error (.repeatedMember enum member)
    else addMembers enum (before ++ [member]) rest

def enumMembers (enum : String) (labels : List String) : Except InternalError (List String) :=
  addMembers enum [] labels

def typeName : Datatype → String
  | .string => "string"
  | .byteString => "number[]"
  | .json => "any"
  | .boolean => "boolean"
  | .set => "string"
  | _ => "number"

abbrev Registry := List (List String × String)

/-- The type of a field. Fields with the same labels share the enum of the first one. -/
def typeOf (table : String) (registry : Registry) (f : Field) :
    Except InternalError (String × Registry) :=
  if f.datatype == .enum then
    match f.labels with
    | none => .error (.noLabels f.title)
    | some labels => do
      let name ← enumName table f.title
      match registry.lookup labels with
      | some earlier => return (earlier, registry)
      | none => return (name, registry ++ [(labels, name)])
  else return (typeName f.datatype, registry)

def property (f : Field) (type : String) : Property where
  name := quoteName f.title
  type := type
  storedOptional := !f.required
  inputOptional := !f.required || f.generated

def properties (table : String) (registry : Registry) :
    List Field → Except InternalError (List Property × Registry)
  | [] => .ok ([], registry)
  | f :: rest => do
    let (type, registry) ← typeOf table registry f
    let (others, registry) ← properties table registry rest
    return (property f type :: others, registry)

def declaration (entry : List String × String) : Except InternalError EnumDeclaration := do
  return ⟨entry.2, ← enumMembers entry.2 entry.1⟩

def moduleOf (t : Table) : Except InternalError Module := do
  let (found, registry) ← properties t.title [] t.fields.entries
  let enums ← registry.mapM declaration
  let interface ← Naming.pascalCase t.title
  return { table := t.title, interface, properties := found, enums }

def propertyLine (name type : String) (isOptional : Bool) : String :=
  "  " ++ name ++ (if isOptional then "?" else "") ++ ": " ++ type ++ ";\n"

def concat (parts : List String) : String := parts.foldl (· ++ ·) ""

def EnumDeclaration.render (e : EnumDeclaration) : String :=
  "\nexport enum " ++ e.name ++ " \x7b\n" ++ concat (e.members.map fun m => "  " ++ m ++ ",\n") ++
    "\x7d\n"

def Module.render (m : Module) : String :=
  s!"// Generated from the {m.table} table by ddl-toolkit. Do not edit.\n\n" ++
  s!"/** Generated database type for the {m.interface} table. */\n" ++
  s!"export interface {m.interface} \x7b\n" ++
  concat (m.properties.map fun p => propertyLine p.name p.type p.storedOptional) ++
  "\x7d\n\n" ++
  s!"/** Generated database type for the {m.interface} table. (Input version) */\n" ++
  s!"export interface {m.interface}Input \x7b\n" ++
  concat (m.properties.map fun p => propertyLine p.name p.type p.inputOptional) ++
  "\x7d\n" ++
  concat (m.enums.map EnumDeclaration.render)

def renderTable (t : Table) : Except InternalError String := (moduleOf t).map Module.render

def fileName (t : Table) : String := t.title ++ ".ts"

def renderDatabase (db : Database) : Except InternalError (List (String × String)) :=
  db.tables.entries.mapM fun t => do return (fileName t, ← renderTable t)

end SchemaCompiler.TypeScript
