import Mathlib.Data.List.Nodup
import SchemaCompiler.Model.Source
import SchemaCompiler.Proofs.Text.Cutting

/-!
The imports of a source. What is needed is added name by name, each to the names of its module, so
the source imports just the names that are needed, and each of them once.
-/

namespace SchemaCompiler.Model

open Text

/-! Names by module -/

namespace Imports

variable {imports : Imports} {module name : String} {pair : String × String}
variable {needs : List (String × String)}

/-- The imported names, each with its module. -/
def pairs (imports : Imports) : List (String × String) :=
  imports.flatMap fun (module, names) => names.toList.map (module, ·)

/-- The imported names in the order in which they are written. -/
def names (imports : Imports) : List String := imports.flatMap fun (_, names) => names.toList

def modules (imports : Imports) : List String := imports.map Prod.fst

/-- Adds what is needed, one after the other. -/
def addAll (imports : Imports) (needs : List (String × String)) : Imports :=
  needs.foldl (fun before (module, name) => before.add module name) imports

theorem names_eq (imports : Imports) : imports.names = imports.pairs.map Prod.snd := by
  rw [names, pairs, List.map_flatMap]
  congr 1
  funext ⟨module, names⟩
  rw [List.map_map]
  exact (List.map_id _).symm

theorem mem_entry {labels : List String} :
    pair ∈ labels.map (module, ·) ↔ pair.1 = module ∧ pair.2 ∈ labels := by
  obtain ⟨other, label⟩ := pair
  simp [eq_comm, and_comm]

theorem mem_pairs_add :
    pair ∈ (imports.add module name).pairs ↔ pair = (module, name) ∨ pair ∈ imports.pairs := by
  induction imports with
  | nil => simp [add, pairs, LabelSet.insert, LabelSet.empty, insertBy]
  | cons first rest ih =>
      obtain ⟨other, names⟩ := first
      rw [add]
      split
      · next same =>
        obtain rfl : other = module := by simpa using same
        simp only [pairs, List.flatMap_cons, List.mem_append, mem_entry, LabelSet.mem_insert,
          Prod.ext_iff, and_or_left, or_assoc]
      · simp only [pairs, List.flatMap_cons, List.mem_append] at ih ⊢
        rw [ih, or_left_comm]

theorem mem_pairs_add_all :
    pair ∈ (imports.addAll needs).pairs ↔ pair ∈ imports.pairs ∨ pair ∈ needs := by
  induction needs generalizing imports with
  | nil => simp [addAll]
  | cons need rest ih =>
      rw [addAll, List.foldl_cons, ← addAll, ih, mem_pairs_add, List.mem_cons, or_left_comm,
        or_assoc]

theorem modules_add : (imports.add module name).modules =
    if module ∈ imports.modules then imports.modules else imports.modules ++ [module] := by
  induction imports with
  | nil => rfl
  | cons first rest ih =>
      obtain ⟨other, names⟩ := first
      by_cases same : other = module
      · simp [add, modules, same]
      · have apart : module ≠ other := fun alike => same alike.symm
        simp only [modules] at ih
        by_cases known : module ∈ rest.map Prod.fst
        · simp [add, modules, same, apart, ih, known]
        · simp [add, modules, same, apart, ih, known]

theorem mem_modules_add_all {other : String} (member : other ∈ (imports.addAll needs).modules) :
    other ∈ imports.modules ∨ other ∈ needs.map Prod.fst := by
  induction needs generalizing imports with
  | nil => exact Or.inl member
  | cons need rest ih =>
      rw [List.map_cons, List.mem_cons]
      rcases ih member with added | later
      · rw [modules_add] at added
        split at added
        · exact Or.inl added
        · rw [List.mem_append, List.mem_singleton] at added
          exact added.imp_right Or.inl
      · exact Or.inr (Or.inr later)

theorem modules_distinct (distinct : imports.modules.Nodup) (needs : List (String × String)) :
    (imports.addAll needs).modules.Nodup := by
  induction needs generalizing imports with
  | nil => exact distinct
  | cons need rest ih =>
      refine ih ?_
      rw [modules_add]
      split
      · exact distinct
      · next fresh =>
        exact List.Nodup.append distinct (List.nodup_singleton _) (by simpa using fresh)

/-- A name stands in one module at most, and once. -/
theorem names_distinct {offered : List (String × String)} (distinct : imports.modules.Nodup)
    (known : ∀ pair ∈ imports.pairs, pair ∈ offered) (single : (offered.map Prod.snd).Nodup) :
    imports.names.Nodup := by
  have pairs : imports.pairs.Nodup := by
    refine List.nodup_flatMap.mpr ⟨?_, ?_⟩
    · rintro ⟨module, names⟩ _
      have increasing : names.toList.Nodup := by
        refine names.increasing.imp ?_
        rintro name _ below rfl
        exact String.lt_irrefl name below
      exact increasing.map fun _ _ same => congrArg Prod.snd same
    · refine (List.pairwise_map.mp distinct).imp ?_
      intro first second apart pair one two
      exact apart ((mem_entry.mp one).1.symm.trans (mem_entry.mp two).1)
  rw [names_eq]
  refine List.Nodup.map_on ?_ pairs
  intro one first two second same
  exact List.inj_on_of_nodup_map single (known one first) (known two second) same

end Imports

/-! Lines of imports -/

def importLine (entry : String × LabelSet) : String :=
  "from " ++ entry.1 ++ " import " ++ ", ".intercalate entry.2.toList

def isListGap (c : Char) : Bool := c == ' ' || c == ','

/-- The names that a line imports, behind the two keywords and the module. -/
def lineImports (line : List Char) : List (List Char) := (runsOutside isListGap [] line).drop 3

/-- A word can stand in a list without an end to it. -/
def Listable (word : String) : Prop := word ≠ "" ∧ word.toList.any isListGap = false

instance (word : String) : Decidable (Listable word) :=
  inferInstanceAs (Decidable (word ≠ "" ∧ word.toList.any isListGap = false))

theorem runs_word {word : String} (listable : Listable word) :
    runsOutside isListGap [] word.toList = [word.toList] := by
  have solid : ∀ c ∈ word.toList, isListGap c = false := by
    simpa using List.any_eq_false.mp listable.2
  exact runs_outside_whole solid (by simpa using listable.1)

theorem runs_list {words : List String} (listable : ∀ word ∈ words, Listable word) :
    runsOutside isListGap [] (", ".intercalate words).toList = words.map String.toList := by
  induction words with
  | nil => rfl
  | cons first rest ih =>
      obtain ⟨start, later⟩ := List.forall_mem_cons.mp listable
      cases rest with
      | nil => simpa using runs_word start
      | cons next rest =>
          have gap : (", ".intercalate (first :: next :: rest)).toList =
              first.toList ++ ',' :: ([] ++ ' ' :: (", ".intercalate (next :: rest)).toList) := by
            simp [String.intercalate_cons_cons]
          rw [gap, runs_outside_gap rfl, runs_outside_gap rfl, ih later, runs_word start]
          rfl

theorem line_imports {entry : String × LabelSet} (module : Listable entry.1)
    (names : ∀ name ∈ entry.2.toList, Listable name) :
    lineImports (importLine entry).toList = entry.2.toList.map String.toList := by
  have line : (importLine entry).toList = "from".toList ++ ' ' :: (entry.1.toList ++
      ' ' :: ("import".toList ++ ' ' :: (", ".intercalate entry.2.toList).toList)) := by
    simp [importLine]
  have front : runsOutside isListGap [] "from".toList = ["from".toList] := rfl
  have middle : runsOutside isListGap [] "import".toList = ["import".toList] := rfl
  rw [lineImports, line, runs_outside_gap rfl, runs_outside_gap rfl, runs_outside_gap rfl,
    runs_list names, runs_word module, front, middle]
  rfl

/-! What a source needs -/

namespace WrittenColumn

def valueNeeds (c : WrittenColumn) : List (String × String) :=
  if c.type.valueType.module == "builtins" then []
  else [(c.type.valueType.module, c.type.valueType.name)]

def classNeeds (c : WrittenColumn) : List (String × String) :=
  c.valueNeeds ++ ("sqlalchemy", c.type.className) ::
    (if c.foreign.isSome then [("sqlalchemy", "ForeignKey")] else []) ++
    [("sqlalchemy.orm", "Mapped"), ("sqlalchemy.orm", "mapped_column")]

def plainNeeds (c : WrittenColumn) : List (String × String) :=
  [("sqlalchemy", "Column"), ("sqlalchemy", c.type.className)]

end WrittenColumn

def Definition.needs (d : Definition) : List (String × String) :=
  match d.form with
  | .mapped => d.columns.flatMap WrittenColumn.classNeeds
  | .plain => d.columns.flatMap WrittenColumn.plainNeeds ++ [("sqlalchemy", "Table")]

def commonNeeds : List (String × String) :=
  [("__future__", "annotations"), ("sqlalchemy.orm", "DeclarativeBase")]

theorem class_imports_eq (imports : Imports) (c : WrittenColumn) :
    c.classImports imports = imports.addAll c.classNeeds := by
  rw [WrittenColumn.classImports, WrittenColumn.classNeeds, WrittenColumn.valueNeeds]
  cases c.type.valueType.module == "builtins" <;> cases c.foreign <;> rfl

theorem definition_imports_eq (imports : Imports) (d : Definition) :
    d.imports imports = imports.addAll d.needs := by
  obtain ⟨form, name, table, columns⟩ := d
  have classes : WrittenColumn.classImports = fun imports c => imports.addAll c.classNeeds :=
    funext₂ class_imports_eq
  have plain : WrittenColumn.plainImports = fun imports c => imports.addAll c.plainNeeds := rfl
  cases form with
  | mapped =>
      simp only [Definition.imports, Definition.needs, Imports.addAll, classes, List.foldl_flatMap]
  | plain =>
      simp only [Definition.imports, Definition.needs, Imports.addAll, plain, List.foldl_append,
        List.foldl_flatMap, List.foldl_cons, List.foldl_nil]

theorem source_imports_eq (ds : List Definition) :
    sourceImports ds = Imports.addAll [] (commonNeeds ++ ds.flatMap Definition.needs) := by
  have each : Definition.imports = fun imports d => imports.addAll d.needs :=
    funext₂ definition_imports_eq
  rw [sourceImports, each, Imports.addAll, List.foldl_append, List.foldl_flatMap]
  rfl

end SchemaCompiler.Model
