import SchemaCompiler.Model.Metadata
import SchemaCompiler.Proofs.Ddl.ForeignKeys
import SchemaCompiler.Proofs.Ddl.NameParts
import SchemaCompiler.Proofs.Schema.Catalog

/-!
References and declarations of tables. A line that declares a table calls it by the last part of
its name, a foreign key line by the first one, so a reference with a schema finds its table only
when the schema has the name of the table.
-/

namespace SchemaCompiler.Ddl

open Model Text

/-- A name between backticks. -/
def quoted (name : String) : List Char := '\x60' :: (name.toList ++ ['\x60'])

def Reference.text (r : Reference) : List Char :=
  (r.schema.elim [] fun s => quoted s ++ ['.']) ++ quoted r.table

/-- No part of the name is empty or holds a backtick or a blank. -/
def Reference.Plain (r : Reference) : Prop :=
  ∀ name ∈ r.schema.toList ++ [r.table], name ≠ "" ∧
    ∀ c ∈ name.toList, c ≠ '\x60' ∧ isBlank c = false

/-- The field refers to the table that the line declares, and its target is the only primary
column of this table. -/
def RefersTo (declaring : List Char) (f : Field) : Prop :=
  ∃ title, readTableName declaring = .ok title ∧ f.foreign = some title ∧
    ∀ (db : Database) (target : Table) (key : Field), db.table? title = some target →
      target.fields.entries.filter Field.primary = [key] →
      foreignTarget db f = some (target.title ++ "." ++ key.title)

theorem foreign_target_found {f : Field} {title : String} (refers : f.foreign = some title)
    {db : Database} {target : Table} {key : Field} (found : db.table? title = some target)
    (keyed : target.fields.entries.filter Field.primary = [key]) :
    foreignTarget db f = some (target.title ++ "." ++ key.title) := by
  simp [foreignTarget, refers, found, keyed]

/-! What the declaration is read as -/

section Declaration

variable {r : Reference} {back : List Char}

theorem reference_solid (plain : r.Plain) : ∀ c ∈ r.text, isBlank c = false := by
  have solid (name : String) (among : name ∈ r.schema.toList ++ [r.table]) :
      ∀ c ∈ quoted name, isBlank c = false :=
    quoted_solid fun c member => ((plain name among).2 c member).2
  obtain ⟨schema, name⟩ := r
  cases schema with
  | none => exact solid name (by simp)
  | some s =>
      intro c member
      simp only [Reference.text, Option.elim, List.mem_append, List.mem_singleton] at member
      rcases member with (inside | rfl) | inside
      · exact solid s (by simp) c inside
      · decide
      · exact solid name (by simp) c inside

/-- The last part is read, unless it is a single dot. -/
theorem name_in_reference (plain : r.Plain) (clear : Unmarked ('\x60' :: wordAt back))
    (lone : r.table = "." → '\x60' ∉ wordAt back) :
    nameIn? (wordAt (r.text ++ back)) = if r.table = "." then none else some r.table.toList := by
  have last : nameIn? ('\x60' :: (r.table.toList ++ '\x60' :: wordAt back)) =
      if r.table = "." then none else some r.table.toList := by
    by_cases dot : r.table = "."
    · have letters : r.table.toList = ['.'] := by rw [dot]; rfl
      rw [if_pos dot, letters, List.singleton_append, name_in_point, name_in_plain (lone dot)]
    · have noDot : r.table.toList ≠ ['.'] := fun same => dot (String.toList_inj.mp same)
      have ticks : '\x60' ∉ r.table.toList := fun member =>
        ((plain r.table (by simp)).2 _ member).1 rfl
      rw [if_neg dot, name_in_name ticks noDot clear]
  rw [word_at_append (reference_solid plain), ← last]
  obtain ⟨schema, table⟩ := r
  cases schema with
  | none => simp [Reference.text, quoted]
  | some s =>
      have behind := name_in_behind ('\x60' :: s.toList) (table.toList ++ '\x60' :: wordAt back)
      simpa [Reference.text, quoted] using behind

theorem declaration_read (plain : r.Plain) {front : List Char}
    (spaced : front.getLast?.all isBlank = true)
    (unquoted : ∀ word ∈ words front, word.head? ≠ some '\x60')
    (clear : Unmarked ('\x60' :: wordAt back)) (lone : r.table = "." → '\x60' ∉ wordAt back)
    (title : String) :
    readTableName (front ++ r.text ++ back) = .ok title ↔ r.table ≠ "." ∧ r.table = title := by
  have name := name_in_reference plain clear lone
  have present : r.table ≠ "" := (plain r.table (by simp)).1
  obtain ⟨more, shape⟩ : ∃ more, r.text = '\x60' :: more := by
    obtain ⟨schema, table⟩ := r
    cases schema with
    | none => exact ⟨_, rfl⟩
    | some s => exact ⟨_, rfl⟩
  rw [shape, List.cons_append] at name
  rw [shape, List.append_assoc, List.cons_append,
    read_table_name_iff (more ++ back) title spaced unquoted, name]
  by_cases dot : r.table = "."
  · simp [dot]
  · rw [if_neg dot, Option.some.injEq, String.toList_inj]
    exact ⟨fun both => ⟨dot, both.2⟩, fun both => ⟨both.2 ▸ present, both.2⟩⟩

end Declaration

/-! What the foreign key line records -/

theorem changed_field {columns : List String} {change : Field → Field} {t after : Table}
    (marking : Marking change) (changed : ChangedAt columns change t after) {column : String}
    (among : column ∈ columns) (known : t.fields.contains column = true) :
    ∃ f, after.field? column = some (change f) := by
  obtain ⟨f, member, rfl⟩ := List.mem_map.mp (List.contains_iff_mem.mp known)
  refine ⟨f, ?_⟩
  have moved : change f ∈ after.fields.entries := by
    rw [changed.fields]
    exact List.mem_map.mpr ⟨f, member, if_pos among⟩
  have found := Catalog.find_entry moved
  have title : Titled.title (change f) = Titled.title f := marking.title f
  rwa [title] at found

/-- A foreign key line makes its columns refer to the table that the other line declares by the
same name, and their targets are found there, exactly when the name is not a single dot and its
schema, if it has one, is called like the table. In the declaration the name stands behind a
blank, no other word in front of it begins with a backtick, and nothing that follows it at once
is taken for a further part. -/
theorem references_agree {constraint index : Option String} {columns : List String}
    {r : Reference} {line front back : List Char} {t : Table} {column : String} (plain : r.Plain)
    (worded : Worded line (foreignKey constraint index columns r)) (listed : column ∈ columns)
    (known : t.fields.contains (lower column) = true)
    (spaced : front.getLast?.all isBlank = true)
    (unquoted : ∀ word ∈ words front, word.head? ≠ some '\x60')
    (clear : Unmarked ('\x60' :: wordAt back)) (lone : r.table = "." → '\x60' ∉ wordAt back) :
    ∃ f, (readTableLine line t).table.field? (lower column) = some f ∧
      (RefersTo (front ++ r.text ++ back) f ↔
        r.table ≠ "." ∧ ∀ s, r.schema = some s → s = r.table) := by
  rw [foreign_key_read worded]
  have changed := mark_foreign_changed (r.schema.getD r.table) t
    (index.toList.map lower ++ columns.map lower)
  obtain ⟨f, after⟩ := changed_field (referring_marking _) changed
    (List.mem_append_right _ (List.mem_map_of_mem listed)) known
  refine ⟨_, after, ?_⟩
  -- The line records the first part of the name, the declaration is read for the last one.
  have same : r.schema.getD r.table = r.table ↔ ∀ s, r.schema = some s → s = r.table := by
    cases r.schema <;> simp
  rw [← same]
  constructor
  · rintro ⟨title, read, refers, _⟩
    obtain ⟨other, rfl⟩ := (declaration_read plain spaced unquoted clear lone title).mp read
    exact ⟨other, Option.some.inj refers⟩
  · rintro ⟨other, agree⟩
    refine ⟨r.table, (declaration_read plain spaced unquoted clear lone _).mpr ⟨other, rfl⟩, ?_, ?_⟩
    · exact congrArg some agree
    · intro db target key found keyed
      exact foreign_target_found (congrArg some agree) found keyed

theorem references_agree_shops :
    (∃ f, (readTableLine "foreign key (`no`) references `shops`(`id`)".toList
        twoColumns).table.field? "no" = some f ∧
      RefersTo "CREATE TABLE IF NOT EXISTS `shops`(`id` int)".toList f) ∧
    ∃ f, (readTableLine "foreign key (`no`) references `shops`.`shops`(`id`)".toList
        twoColumns).table.field? "no" = some f ∧
      RefersTo "CREATE TABLE IF NOT EXISTS `shops`.`shops`(`id` int)".toList f := by
  have worded : Worded "foreign key (`no`) references `shops`(`id`)".toList
      (foreignKey none none ["no"] { table := "shops" }) :=
    ⟨"(`id`)".toList,
      .word "oreign".toList rfl (by decide) (word_ends rfl _) (by decide +kernel) <| .blank rfl <|
      .word "ey".toList rfl (by decide) (word_ends rfl _) (by decide +kernel) <| .blank rfl <|
      .mark (c := '(') (by decide) <| .name "no".toList (by decide) <|
      .mark (c := ')') (by decide) <| .blank rfl <|
      .word "eferences".toList rfl (by decide) (word_ends rfl _) (by decide +kernel) <|
      .blank rfl <| .name "shops".toList (by decide) .done, Outcome.exists_ok (by decide +kernel)⟩
  have parted : Worded "foreign key (`no`) references `shops`.`shops`(`id`)".toList
      (foreignKey none none ["no"] { schema := some "shops", table := "shops" }) :=
    ⟨"(`id`)".toList,
      .word "oreign".toList rfl (by decide) (word_ends rfl _) (by decide +kernel) <| .blank rfl <|
      .word "ey".toList rfl (by decide) (word_ends rfl _) (by decide +kernel) <| .blank rfl <|
      .mark (c := '(') (by decide) <| .name "no".toList (by decide) <|
      .mark (c := ')') (by decide) <| .blank rfl <|
      .word "eferences".toList rfl (by decide) (word_ends rfl _) (by decide +kernel) <|
      .blank rfl <| .name "shops".toList (by decide) <| .mark (c := '.') (by decide) <|
      .name "shops".toList (by decide) .done, Outcome.exists_ok (by decide +kernel)⟩
  have letters : "shops" ≠ "" ∧ ∀ c ∈ "shops".toList, c ≠ '\x60' ∧ isBlank c = false := by
    have solid : "shops".toList.all (fun c => c != '\x60' && !isBlank c) = true := by
      decide +kernel
    exact ⟨by decide, fun c member => by simpa using List.all_eq_true.mp solid c member⟩
  have named (r : Reference) (only : ∀ name ∈ r.schema.toList ++ [r.table], name = "shops") :
      r.Plain := by
    intro name among
    rw [only name among]
    exact letters
  have plain := named { table := "shops" } (by simp)
  have partedPlain := named { schema := some "shops", table := "shops" } (by simp)
  have listed : "no" ∈ ["no"] := by simp
  have known : twoColumns.fields.contains (lower "no") = true := by decide +kernel
  have spaced : "CREATE TABLE IF NOT EXISTS ".toList.getLast?.all isBlank = true := by
    decide +kernel
  have unquoted : ∀ word ∈ words "CREATE TABLE IF NOT EXISTS ".toList,
      word.head? ≠ some '\x60' := by decide +kernel
  have clear : Unmarked ('\x60' :: wordAt "(`id` int)".toList) := by decide +kernel
  have lone : "shops" = "." → '\x60' ∉ wordAt "(`id` int)".toList := by decide
  have lowered : lower "no" = "no" := by decide +kernel
  obtain ⟨f, found, agrees⟩ :=
    references_agree plain worded listed known spaced unquoted clear lone
  obtain ⟨g, foundParted, agreesParted⟩ :=
    references_agree partedPlain parted listed known spaced unquoted clear lone
  rw [lowered] at found foundParted
  exact ⟨⟨f, found, agrees.mpr ⟨by decide, by simp⟩⟩,
    g, foundParted, agreesParted.mpr ⟨by decide, by simp⟩⟩

/-- A reference takes the schema for the table, and no line declares a table called by a dot. -/
theorem references_disagree :
    (∃ f, (readTableLine "FOREIGN KEY (`no`) REFERENCES `shop`.`user` (`id`)".toList
        twoColumns).table.field? "no" = some f ∧
      ¬ RefersTo "CREATE TABLE `shop`.`user` (".toList f) ∧
    ∃ f, (readTableLine "FOREIGN KEY (`no`) REFERENCES `.` (`id`)".toList
        twoColumns).table.field? "no" = some f ∧ ¬ RefersTo "CREATE TABLE `.` (".toList f := by
  constructor
  · refine ⟨referring "shop" { title := "no" }, by decide +kernel, ?_⟩
    rintro ⟨title, read, refers, _⟩
    obtain rfl : "shop" = title := Option.some.inj refers
    revert read
    decide +kernel
  · refine ⟨referring "." { title := "no" }, by decide +kernel, ?_⟩
    rintro ⟨title, read, refers, _⟩
    obtain rfl : "." = title := Option.some.inj refers
    revert read
    decide +kernel

end SchemaCompiler.Ddl
