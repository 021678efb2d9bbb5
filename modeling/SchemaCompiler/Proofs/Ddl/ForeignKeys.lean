import SchemaCompiler.Proofs.Ddl.KeyLines
import SchemaCompiler.Proofs.Ddl.LineReading

/-!
Foreign key lines. The reader takes every name between the two keywords for a column, so the name
of an index in front of the columns refers to the table as well when a field has it.
-/

namespace SchemaCompiler.Ddl

open Text

/-! How foreign keys are worded -/

/-- A table as a line refers to it, at most with the schema that holds it. -/
structure Reference where
  schema : Option String := none
  table : String

def Reference.said (r : Reference) : List (TokenKind × String) :=
  (r.schema.elim [] fun s => [(.identifier, s), (.symbol, ".")]) ++ [(.identifier, r.table)]

/-- What stands between the two keywords of a foreign key line. -/
def keyColumns (index : Option String) (columns : List String) : List (TokenKind × String) :=
  (.word, "key") :: ((index.elim [] fun name => [(.identifier, name)]) ++
    bracketed (columns.map fun column => [(.identifier, column)]))

/-- A foreign key line up to the table that it refers to. -/
def foreignKey (constraint index : Option String) (columns : List String) (r : Reference) :
    List (TokenKind × String) :=
  (constraint.elim [] fun name => [(.word, "constraint"), (.identifier, name)]) ++
    (.word, "foreign") :: (keyColumns index columns ++ (.word, "references") :: r.said)

/-! What is read of them -/

theorem is_word_iff (t : Token) (word : String) :
    t.isWord [word] = true ↔ t.said = (.word, word) := by
  rw [is_word_said]
  simp [Prod.ext_iff]

/-- The place of a word that none of the tokens in front says. -/
theorem find_word_at {front : List Token} {t : Token} {word : String} (back : List Token)
    (elsewhere : (.word, word) ∉ front.map Token.said) (here : t.said = (.word, word)) :
    (front ++ t :: back).findIdx (·.isWord [word]) = front.length := by
  have none : front.findIdx (·.isWord [word]) = front.length := by
    rw [List.findIdx_eq_length]
    intro other member
    refine Bool.eq_false_iff.mpr fun same => elsewhere ?_
    rw [← (is_word_iff other word).mp same]
    exact List.mem_map_of_mem member
  simp [List.findIdx_append, none, List.findIdx_cons, (is_word_iff t word).mpr here]

/-- The names between the two keywords refer to the name behind the second one. -/
theorem read_foreign_key_between {front between behind : List Token}
    {foreign references target : Token} (t : Table) (starts : foreign.said = (.word, "foreign"))
    (refers : references.said = (.word, "references"))
    (first : (.word, "foreign") ∉ front.map Token.said)
    (second : (.word, "references") ∉ (front ++ foreign :: between).map Token.said)
    (found : behind.find? (·.kind == .identifier) = some target) :
    readForeignKey (front ++ foreign :: (between ++ references :: behind)) t =
      markForeignColumns target.value t (listedColumns (foreign :: between)) := by
  have opening := find_word_at (between ++ references :: behind) first starts
  have closing := find_word_at behind second refers
  rw [List.append_assoc, List.cons_append] at closing
  have word : references.kind = .word := congrArg Prod.fst refers
  have length : (front ++ foreign :: between).length - front.length =
      (foreign :: between).length := by simp
  have inner : ((front ++ foreign :: (between ++ references :: behind)).drop front.length).take
      (foreign :: between).length = foreign :: between := by
    rw [List.drop_left, ← List.cons_append, List.take_left]
  have outer : (front ++ foreign :: (between ++ references :: behind)).drop
      (front ++ foreign :: between).length = references :: behind := by
    rw [← List.cons_append, ← List.append_assoc, List.drop_left]
  simp only [readForeignKey, opening, closing, length, inner, outer]
  simp [word, found]

/-- The index is taken for a column, in front of the others. -/
theorem named_columns_key (index : Option String) (columns : List String) :
    namedColumns (keyColumns index columns) = index.toList.map lower ++ columns.map lower := by
  have parts : columns.map (fun column => [(TokenKind.identifier, column)]) =
      (columns.map fun column => ({ column } : KeyPart)).map KeyPart.said := by
    simp [KeyPart.said]
  have seen : columnsOf (seenParts (columns.map fun column => { column })) = columns.map lower := by
    clear parts
    induction columns with
    | nil => rfl
    | cons column rest ih => simpa [columns_of_seen] using ih
  have names : namedColumns (bracketed (columns.map fun column => [(.identifier, column)])) =
      columns.map lower := by
    rw [parts, ← List.append_nil (bracketed _), named_columns_bracketed, seen]
  cases index with
  | none => simpa [keyColumns] using names
  | some name => simpa [keyColumns] using names

theorem mem_listing {items : List (List (TokenKind × String))} {said : TokenKind × String}
    (member : said ∈ listing items) : said = (.comma, ",") ∨ ∃ item ∈ items, said ∈ item := by
  induction items with
  | nil => cases member
  | cons item rest ih =>
      cases rest with
      | nil => exact Or.inr ⟨item, by simp, member⟩
      | cons next more =>
          rw [listing, List.mem_append, List.mem_cons] at member
          · rcases member with here | same | later
            · exact Or.inr ⟨item, by simp, here⟩
            · exact Or.inl same
            · rcases ih later with same | ⟨other, among, inside⟩
              · exact Or.inl same
              · exact Or.inr ⟨other, List.mem_cons_of_mem item among, inside⟩
          · rintro ⟨⟩

theorem references_not_in_key (index : Option String) (columns : List String) :
    (.word, "references") ∉ keyColumns index columns := by
  have names : (.word, "references") ∉
      listing (columns.map fun column => [(.identifier, column)]) := by
    intro member
    rcases mem_listing member with same | ⟨item, among, here⟩
    · simp at same
    · obtain ⟨column, _, rfl⟩ := List.mem_map.mp among
      simp at here
  cases index <;> simp [keyColumns, bracketed, names]

theorem reference_first (r : Reference) :
    ∃ others, r.said = (.identifier, r.schema.getD r.table) :: others := by
  obtain ⟨schema, table⟩ := r
  cases schema with
  | none => exact ⟨[], rfl⟩
  | some s => exact ⟨[(.symbol, "."), (.identifier, table)], rfl⟩

theorem foreign_key_first (constraint index : Option String) (columns : List String)
    (r : Reference) :
    ∃ word said, word ∈ ["constraint", "foreign"] ∧
      foreignKey constraint index columns r = (.word, word) :: said := by
  cases constraint with
  | none => exact ⟨"foreign", _, by simp, rfl⟩
  | some name => exact ⟨"constraint", _, by simp, rfl⟩

theorem read_table_line_worded {line : List Char} {word : String}
    {said : List (TokenKind × String)} {tokens : List Token}
    (worded : Worded line ((.word, word) :: said)) (among : word ∈ ["constraint", "foreign"])
    (read : tokenize line = .ok tokens) (t : Table) :
    readTableLine line t = readForeignKey tokens t := by
  obtain ⟨first, rest, _, led, leads, _⟩ := worded_tokens worded
  have others (candidates : List String) := is_word_of_said leads candidates
  rw [read] at led
  injection led with led
  rw [led] at read ⊢
  refine read_table_line_key (worded_no_comment worded) read ?_ ?_ ?_
  · rw [others]
    rcases List.mem_pair.mp among with rfl | rfl <;> rfl
  · rw [others]
    rcases List.mem_pair.mp among with rfl | rfl <;> rfl
  · rw [others]
    exact List.contains_iff_mem.mpr among

section Lines

variable {constraint index : Option String} {columns : List String} {r : Reference}
  {line : List Char}

/-- A foreign key line takes the first name behind its second keyword for the table and all names
between the two for columns, the index included. -/
theorem foreign_key_read (worded : Worded line (foreignKey constraint index columns r))
    (t : Table) :
    readTableLine line t =
      markForeignColumns (r.schema.getD r.table) t
        (index.toList.map lower ++ columns.map lower) := by
  obtain ⟨more, tokens, read, same⟩ := worded_told worded
  -- The tokens fall apart at the two keywords.
  rw [foreignKey, List.append_assoc, List.cons_append, List.append_assoc, List.cons_append] at same
  obtain ⟨front, others, rfl, fore, rest⟩ := List.map_eq_append_iff.mp same
  obtain ⟨foreign, others, rfl, starts, rest⟩ := List.map_eq_cons_iff.mp rest
  obtain ⟨between, others, rfl, inside, rest⟩ := List.map_eq_append_iff.mp rest
  obtain ⟨references, behind, rfl, refers, aim⟩ := List.map_eq_cons_iff.mp rest
  obtain ⟨tail, aimed⟩ := reference_first r
  rw [aimed, List.cons_append] at aim
  obtain ⟨target, behind, rfl, named, _⟩ := List.map_eq_cons_iff.mp aim
  obtain ⟨kind, value⟩ := said_other (by decide) named
  have found : (target :: behind).find? (·.kind == .identifier) = some target := by
    simp [kind]
  have listed : listedColumns (foreign :: between) =
      index.toList.map lower ++ columns.map lower := by
    rw [listed_columns_said, List.map_cons, starts, inside]
    exact named_columns_key index columns
  have first : (.word, "foreign") ∉ front.map Token.said := by
    rw [fore]
    cases constraint <;> simp
  have second : (.word, "references") ∉ (front ++ foreign :: between).map Token.said := by
    rw [List.map_append, fore, List.map_cons, starts, inside]
    have none := references_not_in_key index columns
    cases constraint <;> simp [none]
  have reading := read_foreign_key_between t starts refers first second found
  rw [value, listed] at reading
  rw [← reading]
  obtain ⟨word, said, among, shape⟩ := foreign_key_first constraint index columns r
  rw [shape] at worded
  exact read_table_line_worded worded among read t

/-- A foreign key line makes its columns refer to its table and changes no other field, whatever
its constraint is called, unless a field that is not among the columns has the name of its index
and does not refer to the table already. -/
theorem foreign_key_marks {target : String}
    (worded : Worded line (foreignKey constraint index columns { table := target })) (t : Table) :
    (readTableLine line t).failure = none ∧
      (ChangedAt (columns.map lower) (referring target) t (readTableLine line t).table ↔
        ∀ name, index = some name → lower name ∈ columns.map lower ∨
          ∀ f ∈ t.fields.entries, f.title = lower name → f.foreign = some target) := by
  have marks := mark_foreign_changed target t (index.toList.map lower ++ columns.map lower)
  rw [foreign_key_read worded]
  refine ⟨mark_foreign_passes _ _ _, (changed_at_iff marks).trans ?_⟩
  -- Only the name of the index stands in front of the columns that are listed.
  cases index with
  | none => simp
  | some name =>
    simp only [Option.toList, List.map_cons, List.map_nil, List.singleton_append, List.mem_cons,
      Option.some.injEq, forall_eq', referring_same]
    constructor
    · intro each
      by_cases among : lower name ∈ columns.map lower
      · exact Or.inl among
      · refine Or.inr fun f member same => (each f member).resolve_left fun both => among ?_
        rw [← same]
        exact both.mp (Or.inl same)
    · rintro (among | all) f member
      · refine Or.inl ⟨fun either => either.elim (fun same => by rwa [same]) id, Or.inr⟩
      · by_cases same : f.title = lower name
        · exact Or.inr (all f member same)
        · exact Or.inl (by simp [same])

end Lines

/-- A constraint with the name of a column, and an index with a name that no field has. -/
theorem foreign_key_marks_orders :
    ChangedAt ["no"] (referring "Shops") twoColumns
      (readTableLine "CONSTRAINT `id` FOREIGN KEY `fk`(`No`) REFERENCES `Shops` (`id`)".toList
        twoColumns).table := by
  have worded : Worded "CONSTRAINT `id` FOREIGN KEY `fk`(`No`) REFERENCES `Shops` (`id`)".toList
      (foreignKey "id" "fk" ["No"] { table := "Shops" }) :=
    ⟨" (`id`)".toList,
      .word "ONSTRAINT".toList rfl (by decide) (word_ends rfl _) (by decide +kernel) <|
      .blank rfl <| .name "id".toList (by decide) <| .blank rfl <|
      .word "OREIGN".toList rfl (by decide) (word_ends rfl _) (by decide +kernel) <| .blank rfl <|
      .word "EY".toList rfl (by decide) (word_ends rfl _) (by decide +kernel) <| .blank rfl <|
      .name "fk".toList (by decide) <| .mark (c := '(') (by decide) <|
      .name "No".toList (by decide) <| .mark (c := ')') (by decide) <| .blank rfl <|
      .word "EFERENCES".toList rfl (by decide) (word_ends rfl _) (by decide +kernel) <|
      .blank rfl <| .name "Shops".toList (by decide) .done, Outcome.exists_ok (by decide +kernel)⟩
  have lowered : ["No"].map lower = ["no"] := by decide +kernel
  rw [← lowered]
  refine (foreign_key_marks worded twoColumns).2.mpr ?_
  rintro _ ⟨⟩
  right
  decide +kernel

/-- The index of a key has the name of a field, which the key says nothing of. -/
theorem index_taken_for_column :
    ¬ ChangedAt ["no"] (referring "shops") twoColumns
      (readTableLine "FOREIGN KEY `id` (`no`) REFERENCES `shops` (`id`)".toList
        twoColumns).table := by
  decide +kernel

end SchemaCompiler.Ddl
