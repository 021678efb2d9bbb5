import SchemaCompiler.Schema.Stored
import SchemaCompiler.TypeScript

/-!
TypeScript declarations of tables as snapshots hold them. Names can only be made of text, which is
looked into piece by piece: what stands in front of a title that is none is rendered before.
-/

namespace SchemaCompiler.Stored

open TypeScript (EnumDeclaration Module Property)

inductive RenderFailure where
  | design (error : InternalError)
  /-- A name that is no text, or a label that is no scalar. -/
  | illTyped
  /-- The types name a table whose title cannot be encoded. -/
  | unencodable
  deriving DecidableEq, Repr

abbrev Render (α : Type) := Except RenderFailure α

def ofDesign {α : Type} (result : Except InternalError α) : Render α := result.mapError .design

def nameOf : Scalar → Render WideText
  | .text name => .ok name
  | _ => .error .illTyped

def enumName (table field : Scalar) : Render String := do
  let front ← ofDesign (Naming.pascalCase (← nameOf table))
  let back ← ofDesign (Naming.pascalCase (← nameOf field))
  return front ++ back ++ "Enum"

def labelOf (label : Json) : Render Scalar :=
  match Scalar.ofJson? label with
  | some scalar => .ok scalar
  | none => .error .illTyped

abbrev Registry := List (List Scalar × String)

def registered? (registry : Registry) (labels : List Scalar) : Option String :=
  (registry.find? fun (known, _) => known.map Scalar.key == labels.map Scalar.key).map (·.2)

/-- The type of a field. Fields with equal labels share the enum of the first one. -/
def typeOf (table : Scalar) (registry : Registry) (f : Field) : Render (String × Registry) :=
  if f.datatype == .enum then
    match f.labels with
    | none => .error (.design (.noLabels f.title.shown))
    | some labels => do
      let name ← enumName table f.title
      let labels ← labels.mapM labelOf
      match registered? registry labels with
      | some earlier => return (earlier, registry)
      | none => return (name, registry ++ [(labels, name)])
  else return (TypeScript.typeName f.datatype, registry)

def property (f : Field) (type : String) : Render Property := do
  return {
    name := TypeScript.quoteName (← nameOf f.title)
    type
    storedOptional := !f.required.isTrue
    inputOptional := !f.required.isTrue || f.generated.isTrue }

def properties (table : Scalar) (registry : Registry) :
    List Field → Render (List Property × Registry)
  | [] => .ok ([], registry)
  | f :: rest => do
    let (type, registry) ← typeOf table registry f
    let found ← property f type
    let (others, registry) ← properties table registry rest
    return (found :: others, registry)

def addMembers (enum : String) (before : List String) : List Scalar → Render (List String)
  | [] => .ok before
  | label :: rest => do
    let member := TypeScript.memberName (← nameOf label)
    if before.contains member then .error (.design (.repeatedMember enum member))
    else addMembers enum (before ++ [member]) rest

def declaration (entry : List Scalar × String) : Render EnumDeclaration := do
  return ⟨entry.2, ← addMembers entry.2 [] entry.1⟩

def moduleOf (t : Table) : Render Module := do
  let (found, registry) ← properties t.title [] t.fields.entries
  let enums ← registry.mapM declaration
  let interface ← ofDesign (Naming.pascalCase (← nameOf t.title))
  return { table := t.title.shown, interface, properties := found, enums }

def renderTable (t : Table) : Render String := do
  let rendered ← moduleOf t
  match t.title with
  | .text (.broken _) => .error .unencodable
  | _ => .ok rendered.render

def fileName (t : Table) : String := t.title.shown ++ ".ts"

def renderDatabase (db : Database) : Render (List (String × String)) :=
  db.tables.entries.mapM fun t => do return (fileName t, ← renderTable t)

end SchemaCompiler.Stored
