import Mathlib.Data.List.Forall2
import SchemaCompiler.Proofs.TypeScript.PropertyLine
import SchemaCompiler.Proofs.TypeScript.PropertyType
import SchemaCompiler.Proofs.Validation.Fragments

/-!
Interfaces and validation. The two interfaces that are written for a table ask for the properties
that validation asks for, of stored records and of input, and give them types that the accepted
values have.
-/

namespace SchemaCompiler.TypeScript

open Outcome Validation

/-! What is written -/

/-- A file by the lines of its two interfaces. -/
def fileText (table interface : String) (stored input : List String)
    (enums : List EnumDeclaration) : String :=
  s!"// Generated from the {table} table by ddl-toolkit. Do not edit.\n\n" ++
  s!"/** Generated database type for the {interface} table. */\n" ++
  s!"export interface {interface} \x7b\n" ++ concat stored ++ "\x7d\n\n" ++
  s!"/** Generated database type for the {interface} table. (Input version) */\n" ++
  s!"export interface {interface}Input \x7b\n" ++ concat input ++ "\x7d\n" ++
  concat (enums.map EnumDeclaration.render)

/-- The line of a field, with a type whose shape all values have that the field accepts. -/
def Lists [Pattern.CharacterNames] (enums : List String) (f : Field) (line : String) : Prop :=
  ∃ type isOptional, line = propertyLine (quoteName f.title) type isOptional ∧
    ∀ value v, f.extract value = .ok v → HasShape enums type value

/-- The line of a field of the given kind of interface. -/
def Written (registry : Registry) (isInput : Bool) (f : Field) (line : String) : Prop :=
  ∃ type, Typed registry f type ∧
    line = propertyLine (quoteName f.title) type (excused isInput f)

/-- The lines of an interface in which the properties are marked as given. -/
def linesOf (mark : Property → Bool) (found : List Property) : List String :=
  found.map fun p => propertyLine p.name p.type (mark p)

theorem declarations_named {registry : Registry} {enums : List EnumDeclaration}
    (declared : registry.mapM declaration = .ok enums) :
    enums.map EnumDeclaration.name = registry.map Prod.snd := by
  induction registry generalizing enums with
  | nil =>
      cases declared
      rfl
  | cons entry rest ih =>
      simp only [List.mapM_cons, bind_ok_iff] at declared
      obtain ⟨enum, first, others, later, same⟩ := declared
      cases same
      simp only [declaration, bind_ok_iff] at first
      obtain ⟨_, _, same⟩ := first
      cases same
      rw [List.map_cons, List.map_cons, ih later]

theorem module_of_ok {t : Table} {m : Module} (made : moduleOf t = .ok m) :
    ∃ registry, properties t.title [] t.fields.entries = .ok (m.properties, registry) ∧
      registry.mapM declaration = .ok m.enums ∧ m.table = t.title := by
  simp only [moduleOf, bind_ok_iff] at made
  obtain ⟨⟨found, registry⟩, ran, enums, declared, interface, _, same⟩ := made
  cases same
  exact ⟨registry, ran, declared, rfl⟩

open scoped Pattern.Unnamed

end SchemaCompiler.TypeScript
