import Mathlib.Data.List.Forall2
import SchemaCompiler.Association
import SchemaCompiler.Proofs.Validation.Fields

/-!
Payloads in fragments. A list of fragments is validated as the one object that keeps the earliest
entry of each key, and what stands under keys that no field has does not matter.
-/

namespace SchemaCompiler.Validation

/-! Merging -/

/-- The entries of a fragment. Only objects have any. -/
def entriesOf : Json → List (WideText × Json)
  | .object members => members
  | _ => []

/-- Adds an entry, unless there is one of its key. -/
def keepFirst (kept : List (WideText × Json)) (entry : WideText × Json) : List (WideText × Json) :=
  if entry.1 ∈ kept.map Prod.fst then kept else kept ++ [entry]

/-- The entries of all objects among the fragments, the earliest one of each key. -/
def merged (items : List Json) : List (WideText × Json) :=
  (items.flatMap entriesOf).foldl keepFirst []

theorem lookup_keep_first (key : WideText) (kept : List (WideText × Json))
    (entry : WideText × Json) :
    (keepFirst kept entry).lookup key = (kept ++ [entry]).lookup key := by
  rw [keepFirst]
  split
  · next known =>
    rw [List.lookup_append]
    by_cases same : key = entry.1
    · obtain ⟨value, found⟩ := Association.lookup_present known
      rw [same, found, Option.some_or]
    · have apart : [entry].lookup key = none := Association.lookup_absent (by simpa using same)
      rw [apart, Option.or_none]
  · rfl

theorem lookup_fold_keep_first (key : WideText) (entries kept : List (WideText × Json)) :
    (entries.foldl keepFirst kept).lookup key = (kept ++ entries).lookup key := by
  induction entries generalizing kept with
  | nil => simp
  | cons entry rest ih =>
      have first := lookup_keep_first key kept entry
      rw [List.foldl_cons, ih, List.lookup_append, first, ← List.lookup_append]
      simp

theorem value_in_entries (key : String) (items : List Json) :
    valueIn? key items = (items.flatMap entriesOf).lookup (.plain key) := by
  induction items with
  | nil => rfl
  | cons item rest ih =>
      cases item with
      | object members =>
          rw [List.flatMap_cons, List.lookup_append, valueIn?, ih, Json.member?, entriesOf]
          cases members.lookup (.plain key) with
          | some value => rfl
          | none => rfl
      | null => exact ih
      | bool b => exact ih
      | integer n => exact ih
      | float x => exact ih
      | string s => exact ih
      | array parts => exact ih

/-- The first fragment with a key decides what the merged object holds for it. -/
theorem member_merged (key : String) (items : List Json) :
    Json.member? key (merged items) = valueIn? key items := by
  rw [Json.member?, merged, lookup_fold_keep_first, List.nil_append, value_in_entries]

theorem value_in_object (key : String) (members : List (WideText × Json)) :
    valueIn? key [.object members] = Json.member? key members := by
  rw [valueIn?]
  cases Json.member? key members with
  | some value => rfl
  | none => rfl

/-! Keys that count -/

/-- Fragments that hold the same under every declared title. Two that are no objects do. -/
def AgreeOn (titles : List String) (left right : Json) : Prop :=
  ∀ title ∈ titles,
    (entriesOf left).lookup (.plain title) = (entriesOf right).lookup (.plain title)

theorem value_in_agreeing {titles : List String} {left right : List Json}
    (agree : List.Forall₂ (AgreeOn titles) left right) {title : String}
    (declared : title ∈ titles) : valueIn? title left = valueIn? title right := by
  simp only [value_in_entries]
  induction agree with
  | nil => rfl
  | cons first _ ih =>
      rw [List.flatMap_cons, List.flatMap_cons, List.lookup_append, List.lookup_append, ih,
        first title declared]

section Names

variable [Pattern.CharacterNames]

/-- Only the values stored for the fields' titles matter. -/
theorem validate_fields_congr (table : String) (isInput : Bool) {left right : List Json}
    {fields : List Field}
    (alike : ∀ f ∈ fields, valueIn? f.title left = valueIn? f.title right) :
    validateFields table isInput left fields = validateFields table isInput right fields := by
  induction fields with
  | nil => rfl
  | cons f rest ih =>
      have head := alike f (by simp)
      have tail := ih fun g member => alike g (List.mem_cons_of_mem f member)
      simp only [validateFields, head, tail]

theorem validate_congr (t : Table) (isInput : Bool) {left right : Json}
    {parts others : List Json} (split : fragments? left = some parts)
    (splitOther : fragments? right = some others)
    (alike : ∀ title ∈ t.fields.titles, valueIn? title parts = valueIn? title others) :
    t.validate left isInput = t.validate right isInput := by
  rw [Table.validate, Table.validate, split, splitOther]
  apply validate_fields_congr
  intro f member
  exact alike f.title (List.mem_map_of_mem member)

theorem validate_merged (t : Table) (items : List Json) (isInput : Bool) :
    t.validate (.array items) isInput = t.validate (.object (merged items)) isInput := by
  apply validate_congr t isInput rfl rfl
  intro title _
  rw [value_in_object, member_merged]

/-- A list is validated as the object merged from it. Entries under titles that are not declared
have no say, neither in a fragment nor in an object. What is found are the declared titles that
the merged object holds, in order, with what their fields make of them; what is reported is the
failure of the first field that fails. -/
theorem fragments_validate_as_merged (t : Table) (items : List Json) (isInput : Bool) :
    t.validate (.array items) isInput = t.validate (.object (merged items)) isInput ∧
    (∀ others, List.Forall₂ (AgreeOn t.fields.titles) items others →
      t.validate (.array others) isInput = t.validate (.array items) isInput) ∧
    (∀ left right, AgreeOn t.fields.titles (.object left) (.object right) →
      t.validate (.object left) isInput = t.validate (.object right) isInput) ∧
    (∀ found, t.validate (.array items) isInput = .ok found →
      found.map Prod.fst =
        t.fields.titles.filter (fun title : String => (Json.member? title (merged items)).isSome) ∧
      ∀ entry ∈ found, ∃ f ∈ t.fields.entries, ∃ value, f.title = entry.1 ∧
        Json.member? f.title (merged items) = some value ∧ f.extract value = .ok entry.2) ∧
    ∀ e, t.validate (.array items) isInput = .error e ↔
      FirstFails t.title isInput (fun title : String => Json.member? title (merged items))
        t.fields.entries e := by
  have stored : (fun title : String => Json.member? title (merged items)) = (valueIn? · items) := by
    funext key
    exact member_merged key items
  refine ⟨validate_merged t items isInput, ?_, ?_, ?_, ?_⟩
  · intro others agree
    apply validate_congr t isInput rfl rfl
    intro title declared
    exact (value_in_agreeing agree declared).symm
  · intro left right agree
    apply validate_congr t isInput rfl rfl
    intro title declared
    rw [value_in_object, value_in_object]
    exact agree title declared
  · intro found passed
    have collects := (validate_fields_ok_iff t.fields.entries found).mp passed
    rw [← stored] at collects
    exact ⟨collects_titles collects, collects_values collects⟩
  · intro e
    rw [stored]
    exact validate_fields_error_iff t.fields.entries e

end Names

open scoped Pattern.Unnamed

def memberTable : Table where
  title := "members"
  fields := .ofList [
    { title := "id", datatype := .unsigned64, required := true, generated := true },
    { title := "active", datatype := .boolean, required := true }]

/-- The second fragment repeats a key of the first, the third is no object. -/
def memberForm : List Json := [
  .object [("active", .bool true), ("note", .null)],
  .object [("id", .integer 7), ("active", .integer 5)],
  .string "id"]

theorem fragments_validate_as_merged_members :
    memberTable.validate (.array memberForm) false =
      memberTable.validate (.object (merged memberForm)) false ∧
    memberTable.validate (.array (memberForm ++ [.null])) false =
      memberTable.validate (.array (memberForm ++ [.object [("note", .null)]])) false ∧
    (∃ found, memberTable.validate (.array memberForm) false = .ok found ∧
      found.map Prod.fst = ["id", "active"]) ∧
    memberTable.validate (.array [.string "id"]) false =
      .error (.invalid (.missing "id" .unsigned64 "members")) := by
  obtain ⟨same, _, _, values, _⟩ := fragments_validate_as_merged memberTable memberForm false
  obtain ⟨_, widened, _⟩ :=
    fragments_validate_as_merged memberTable (memberForm ++ [.object [("note", .null)]]) false
  obtain ⟨_, _, _, _, failures⟩ := fragments_validate_as_merged memberTable [.string "id"] false
  refine ⟨same, ?_, ?_, ?_⟩
  · apply widened
    have kept (item : Json) : AgreeOn memberTable.fields.titles item item := fun _ _ => rfl
    have added : AgreeOn memberTable.fields.titles (.object [("note", .null)]) .null := by
      intro title declared
      have other : title ≠ "note" := by
        rintro rfl
        exact absurd declared (by decide)
      exact Association.lookup_absent (by simpa [entriesOf] using other)
    exact .cons (kept _) (.cons (kept _) (.cons (kept _) (.cons added .nil)))
  · have passed : memberTable.validate (.array memberForm) false =
        .ok [("id", ⟨.unsigned64, .integer 7⟩), ("active", ⟨.boolean, .boolean true⟩)] := by rfl
    refine ⟨_, passed, ?_⟩
    rw [(values _ passed).1]
    rfl
  · rw [failures]
    refine ⟨[], _, _, rfl, by simp, ?_⟩
    exact .missing rfl rfl (by simp)

end SchemaCompiler.Validation
