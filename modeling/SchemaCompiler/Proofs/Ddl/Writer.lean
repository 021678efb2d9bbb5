import SchemaCompiler.Json.Writer
import SchemaCompiler.Proofs.Ddl.Invariant
import SchemaCompiler.Proofs.Ddl.TableMarker

/-!
Databases written as schema dumps: each table between a line that opens it and one that closes
it, a line for every column, and a foreign key line for every column that refers to a table.
-/

namespace SchemaCompiler.Ddl

open Text Json

/-! Columns -/

/-- What a dump says of a column beyond its design. -/
structure Remarks where
  default : Option String := none
  comment : Option String := none

def keyword (word : String) : Piece := .word word.toList

def literals : List String → List Piece
  | [] => []
  | [label] => [.literal label.toList]
  | label :: rest => .literal label.toList :: .comma :: literals rest

def typeName : Datatype → String
  | .string => "varchar"
  | .enum => "enum"
  | .set => "set"
  | .byte => "tinyint"
  | .json => "json"
  | _ => "int"

/-- What stands between the parentheses of a type that has some. -/
def typeArgument (f : Field) : Option (List Piece) :=
  match f.datatype with
  | .string => some [.number (integerText (f.characters.getD 0))]
  | .enum => some (literals (f.labels.getD []))
  | .set => some (literals ((f.members.map LabelSet.toList).getD []))
  | _ => none

def grouped : Option (List Piece) → List Piece
  | none => []
  | some inner => .opening :: (inner ++ [.closing])

def flagWords (unsigned required increment primary unique : Bool) : List String :=
  (if unsigned then ["unsigned"] else []) ++ (if required then ["NOT", "NULL"] else []) ++
    (if increment then ["AUTO_INCREMENT"] else []) ++
    (if primary then ["PRIMARY", "KEY"] else []) ++ if unique then ["UNIQUE"] else []

def spaced (words : List String) : List Piece := words.flatMap fun word => [.gap, keyword word]

def remark (word : String) : Option String → List Piece
  | none => []
  | some text => [.gap, keyword word, .gap, .literal text.toList]

/-- What stands behind the type of a column. -/
def attributes (f : Field) (r : Remarks) : List Piece :=
  spaced (flagWords (f.datatype == .unsigned64) f.required f.increment f.primary f.unique) ++
    (remark "DEFAULT" r.default ++ remark "COMMENT" r.comment)

def columnPieces (f : Field) (r : Remarks) : List Piece :=
  .name f.title.toList :: .gap :: keyword (typeName f.datatype) ::
    (grouped (typeArgument f) ++ attributes f r)

def foreignPieces (column target : String) : List Piece :=
  [keyword "FOREIGN", .gap, keyword "KEY", .gap, .opening, .name column.toList, .closing, .gap,
    keyword "REFERENCES", .gap, .name target.toList, .gap, .opening, .name "id".toList, .closing]

/-! Tables -/

def bodyLines (t : Table) (remarks : Field → Remarks) : List (List Piece) :=
  (t.fields.entries.map fun f => columnPieces f (remarks f)) ++
    t.fields.entries.filterMap fun f => f.foreign.map (foreignPieces f.title)

/-- Every line but the last one ends in a comma. -/
def separated : List (List Piece) → List (List Piece)
  | [] => []
  | [last] => [last]
  | line :: rest => (line ++ [.comma]) :: separated rest

def openingPieces (title : String) : List Piece :=
  [keyword "CREATE", .gap, keyword "TABLE", .gap, .name title.toList, .gap, .opening]

def openingLine (title : String) : List Char := piecesText (openingPieces title)

def tableLines (t : Table) (remarks : Field → Remarks) : List (List Char) :=
  openingLine t.title :: ((separated (bodyLines t remarks)).map piecesText ++ [");".toList])

def dump (db : Database) (remarks : Table → Field → Remarks) : String :=
  String.ofList (db.tables.entries.flatMap fun t =>
    (tableLines t (remarks t)).flatMap (· ++ ['\n']))

/-! What can be written -/

/-- The texts of a column that do not come from a fixed stock of words. -/
def writtenTexts (f : Field) (r : Remarks) : List String :=
  f.title :: (f.foreign.toList ++ (f.labels.getD [] ++ ((f.members.map LabelSet.toList).getD [] ++
    (r.default.toList ++ r.comment.toList))))

structure ExpressibleField (f : Field) (r : Remarks) : Prop extends SoundField f where
  nameless : '\x60' ∉ f.title.toList
  target : ∀ title, f.foreign = some title → '\x60' ∉ title.toList
  length : ∀ n, f.characters = some n → (Nat.toDigits 10 n.natAbs).length ≤ maxLengthDigits
  lines : ∀ text ∈ writtenTexts f r, ∀ c ∈ text.toList, isLineBreak c = false

structure ExpressibleTable (t : Table) (remarks : Field → Remarks) : Prop where
  named : t.title ≠ ""
  plain : ∀ c ∈ t.title.toList, c ≠ '\x60' ∧ isBlank c = false
  fields : ∀ f ∈ t.fields.entries, ExpressibleField f (remarks f)

/-- Databases that dumps have the words for. -/
def Expressible (db : Database) (remarks : Table → Field → Remarks) : Prop :=
  ∀ t ∈ db.tables.entries, ExpressibleTable t (remarks t)

/-- Tables none of whose texts is mistaken for something else: the words that open a table, the
dot between the parts of a name, or a sign in front of a length. -/
structure Unmistakable (t : Table) (remarks : Field → Remarks) : Prop where
  named : t.title ≠ "."
  length : ∀ f ∈ t.fields.entries, ∀ n, f.characters = some n → 0 ≤ n
  quiet : ∀ f ∈ t.fields.entries, ∀ text ∈ writtenTexts f (remarks f),
    hasCreateTable false text.toList = false

/-! Both are decidable -/

instance decidableAtSome {α : Type} (found : Option α) (P : α → Prop) [DecidablePred P] :
    Decidable (∀ a, found = some a → P a) :=
  match found with
  | none => isTrue (by simp)
  | some a => decidable_of_iff (P a) (by simp)

instance : DecidablePred Normal :=
  fun label => inferInstanceAs (Decidable (lower (trimString label) = label))

instance (f : Field) : Decidable (SoundField f) :=
  decidable_of_iff (f.title ≠ "" ∧ lower f.title = f.title ∧ f.checkConsistency = .ok () ∧
    f.datatype ∈ [Datatype.signed64, .unsigned64, .string, .enum, .set, .byte, .json] ∧
    f.bytes = (if f.datatype = .signed64 ∨ f.datatype = .unsigned64 then some 64 else none) ∧
    (f.characters.isSome ↔ f.datatype = .string) ∧ f.decimals = none ∧ f.regex = none ∧
    f.generated = f.increment ∧
    (f.increment = true → f.datatype = .signed64 ∨ f.datatype = .unsigned64) ∧
    (∀ found, f.labels = some found → found ≠ [] ∧ ∀ label ∈ found, Normal label) ∧
    ∀ found, f.members = some found →
      found.toList ≠ [] ∧ ∀ label ∈ found.toList, Normal label)
  ⟨fun ⟨a, b, c, d, e, g, h, i, j, k, l, m⟩ => ⟨a, b, c, d, e, g, h, i, j, k, l, m⟩,
    fun ⟨a, b, c, d, e, g, h, i, j, k, l, m⟩ => ⟨a, b, c, d, e, g, h, i, j, k, l, m⟩⟩

instance (f : Field) (r : Remarks) : Decidable (ExpressibleField f r) :=
  decidable_of_iff (SoundField f ∧ '\x60' ∉ f.title.toList ∧
    (∀ title, f.foreign = some title → '\x60' ∉ title.toList) ∧
    (∀ n, f.characters = some n → (Nat.toDigits 10 n.natAbs).length ≤ maxLengthDigits) ∧
    (writtenTexts f r).all fun text => text.toList.all fun c => !isLineBreak c)
  ⟨fun ⟨sound, a, b, c, d⟩ =>
      { sound with nameless := a, target := b, length := c, lines := by simpa using d },
    fun whole => ⟨whole.toSoundField, whole.nameless, whole.target, whole.length, by
      simpa using whole.lines⟩⟩

instance (t : Table) (remarks : Field → Remarks) : Decidable (ExpressibleTable t remarks) :=
  decidable_of_iff (t.title ≠ "" ∧ (t.title.toList.all fun c => c != '\x60' && !isBlank c) ∧
    ∀ f ∈ t.fields.entries, ExpressibleField f (remarks f))
  ⟨fun ⟨a, b, c⟩ => ⟨a, by simpa using b, c⟩, fun ⟨a, b, c⟩ => ⟨a, by simpa using b, c⟩⟩

instance (db : Database) (remarks : Table → Field → Remarks) : Decidable (Expressible db remarks) :=
  inferInstanceAs (Decidable (∀ t ∈ db.tables.entries, ExpressibleTable t (remarks t)))

instance (t : Table) (remarks : Field → Remarks) : Decidable (Unmistakable t remarks) :=
  decidable_of_iff (t.title ≠ "." ∧
    (∀ f ∈ t.fields.entries, ∀ n, f.characters = some n → 0 ≤ n) ∧
    ∀ f ∈ t.fields.entries, ∀ text ∈ writtenTexts f (remarks f),
      hasCreateTable false text.toList = false)
  ⟨fun ⟨a, b, c⟩ => ⟨a, b, c⟩, fun ⟨a, b, c⟩ => ⟨a, b, c⟩⟩

end SchemaCompiler.Ddl
