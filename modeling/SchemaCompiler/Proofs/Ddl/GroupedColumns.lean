import SchemaCompiler.Proofs.Ddl.ColumnReading
import SchemaCompiler.Proofs.Ddl.Slices

/-!
Columns with a group behind their type, such as a list of labels. The text of the type is cut out
of the line and read once more by itself. The labels that are found in it are those that the tokens
of the line make up, and they stay the same whatever stands behind the group.
-/

namespace SchemaCompiler.Ddl

open Text

/-- The tokens of a column up to the first closing parenthesis of the group behind its type. -/
structure GroupedColumn where
  name : Token
  type : Token
  opening : Token
  inner : List Token
  closing : Token
  typed : type.kind = .word
  opens : opening.kind = .opening
  inside : ∀ t ∈ inner, t.kind ≠ .closing
  closes : closing.kind = .closing

namespace GroupedColumn

/-- What is read behind the name. -/
def rest (column : GroupedColumn) (behind : List Token) : List Token :=
  column.type :: column.opening :: (column.inner ++ column.closing :: behind)

/-- The text of the type with its group. -/
def span (column : GroupedColumn) (line : List Char) : List Char :=
  slice line column.type.start column.closing.stop

/-- The labels that the tokens of the group make up in the line. -/
def ownLabels (column : GroupedColumn) (line : List Char) : Except ParseError (List String) :=
  listedLabels line (column.span line) column.inner

end GroupedColumn

/-- The words among tokens, in lower case. -/
def bareWords (tokens : List Token) : List String :=
  (tokens.filter (·.kind == .word)).map fun t => lower t.value

/-- The column gets the labels that are found: an enum as its labels, a set as its members. -/
structure Labelled (type : Token) (outcome : Except Failure Field)
    (found : Except ParseError (List String)) : Prop where
  enum : lower type.value = "enum" → outcome.map Field.labels = (liftParse found).map some
  set : lower type.value = "set" →
    outcome.map Field.members = (liftParse found).map fun labels => some (.ofList labels)

variable {line text : List Char} {column : GroupedColumn} {behind tokens : List Token}

/-- The words behind the group set flags, and the text that is read for the type ends with the
group. -/
theorem read_column_grouped (titled : lower column.name.value ≠ "") (behind : List Token)
    (line : List Char) :
    readColumn column.name (column.rest behind) line =
      (readType (lower column.name.value) (lower column.type.value) (column.span line) true
        (bareWords behind) line).map fun field => { field with
          required := hasWords ["not", "null"] (bareWords behind)
          primary := hasWords ["primary", "key"] (bareWords behind)
          unique := (bareWords behind).contains "unique" } := by
  have size := group_length_closed column.opens column.inside column.closes behind line
  have group : (column.opening :: (column.inner ++ column.closing :: behind)).take
      (column.inner.length + 2) = column.opening :: column.inner ++ [column.closing] := by
    rw [List.take_succ_cons, List.take_length_add_append]
    rfl
  have rest : (column.opening :: (column.inner ++ column.closing :: behind)).drop
      (column.inner.length + 2) = behind := by
    rw [List.drop_succ_cons, List.drop_length_add_append]
    rfl
  have last : (column.opening :: column.inner ++ [column.closing]).getLast? =
      some column.closing := List.getLast?_concat
  have word : (column.type.kind != .word) = false := by simp [column.typed]
  have grouped : decide (0 < column.inner.length + 2) = true := by simp
  have flags : (behind.filter (·.kind == .word)).map (fun t => lower t.value) =
      bareWords behind := rfl
  have span : slice line column.type.start column.closing.stop = column.span line := rfl
  simp only [readColumn, GroupedColumn.rest, beq_eq_false_iff_ne.mpr titled, word, size, liftParse,
    Bool.false_eq_true, if_false, bind, Except.bind, group, rest, last, Option.getD_some, grouped,
    flags, span]
  cases readType (lower column.name.value) (lower column.type.value) (column.span line) true
    (bareWords behind) line <;> rfl

theorem column_labelled (titled : lower column.name.value ≠ "") (behind : List Token)
    (line : List Char) :
    Labelled column.type (readColumn column.name (column.rest behind) line)
      (labels (column.span line)) := by
  rw [read_column_grouped titled behind line]
  constructor
  · intro enum
    rw [readType, enum]
    cases labels (column.span line) <;> rfl
  · intro set
    rw [readType, set]
    cases labels (column.span line) <;> rfl

/-- Tokens that lie within a slice make up the same labels there. -/
theorem listed_labels_moved {first stop : Nat} {inner : List Token}
    (within : ∀ t ∈ inner, t.stop + first ≤ stop) (shown : List Char) :
    listedLabels text shown (inner.map (Token.moved first)) =
      listedLabels (slice text first stop) shown inner := by
  have spans : ∀ group ∈ groups inner, ∀ s ∈ group, ∀ t ∈ group,
      slice text (s.moved first).start (t.moved first).stop =
        id (slice (slice text first stop) s.start t.stop) := by
    intro group among s _ t member
    exact (slice_slice text (within t (mem_groups among member))).symm
  have kinds (t : Token) : (t.moved first).kind = t.kind := rfl
  have values (t : Token) : (t.moved first).value.toList = id t.value.toList := rfl
  rw [listedLabels, listedLabels, groups_map kinds, elements_map kinds values _ spans,
    List.map_id_fun, Option.map_id]
  rfl

theorem labels_of_group (read : tokenize line = .ok (column.name :: column.rest behind)) :
    labels (column.span line) = column.ownLabels line := by
  have parts : column.name :: column.rest behind = [column.name] ++
      (column.type :: column.opening :: (column.inner ++ [column.closing]) ++ behind) := by
    simp [GroupedColumn.rest]
  rw [parts] at read
  have last : (column.type :: column.opening :: (column.inner ++ [column.closing])).getLast? =
      some column.closing := by
    rw [← List.cons_append, ← List.cons_append]
    exact List.getLast?_concat
  obtain ⟨found, again, moved⟩ := tokenize_slice read rfl last
  -- The tokens of the slice come apart where those of the line do.
  obtain ⟨type, tokens, rfl, typed, moved⟩ := List.map_eq_cons_iff.mp moved
  obtain ⟨opening, tokens, rfl, opens, moved⟩ := List.map_eq_cons_iff.mp moved
  obtain ⟨inner, tokens, rfl, among, moved⟩ := List.map_eq_append_iff.mp moved
  obtain ⟨closing, tokens, rfl, closes, none⟩ := List.map_eq_cons_iff.mp moved
  obtain rfl := List.map_eq_nil_iff.mp none
  have kind {t other : Token} {n : Nat} (same : t.moved n = other) : t.kind = other.kind := by
    rw [← same]
    rfl
  have word : type.kind = .word := (kind typed).trans column.typed
  have inside : ∀ t ∈ inner, t.kind ≠ .closing := by
    intro t member
    apply column.inside (t.moved column.type.start)
    rw [← among]
    exact List.mem_map_of_mem member
  have within : ∀ t ∈ inner, t.stop + column.type.start ≤ column.closing.stop := by
    intro t member
    obtain ⟨_, span, high⟩ := (tokenize_tiling again).spans t (by simp [member])
    have length := (tokenize_tiling read).spans column.closing (by simp)
    rw [slice_length length.2.2] at high
    omega
  have split : type :: opening :: (inner ++ [closing]) =
      [type] ++ opening :: (inner ++ [closing]) := rfl
  rw [split] at again
  rw [GroupedColumn.ownLabels, ← among, listed_labels_moved within]
  exact labels_listed again ((kind opens).trans column.opens) ((kind closes).trans column.closes)
    (by simp [word]) inside

/-- A slice from where a token starts to where one ends is read as the tokens between the two. So
the labels in the text of a column's type are those of the group's own tokens, in every line that
is the same up to the parenthesis that closes the group. -/
theorem slices_keep_tokens (read : tokenize text = .ok tokens) :
    (∀ i j start last, i ≤ j → tokens[i]? = some start → tokens[j]? = some last →
      ∃ found, tokenize (slice text start.start last.stop) = .ok found ∧
        found.map (Token.moved start.start) = (tokens.take (j + 1)).drop i) ∧
    ∀ (column : GroupedColumn) (behind : List Token), tokens = column.name :: column.rest behind →
      ∀ line others, line.take column.closing.stop = text.take column.closing.stop →
        tokenize line = .ok others →
          ∃ after, others = column.name :: column.rest after ∧
            labels (column.span line) = column.ownLabels text ∧
            (lower column.name.value ≠ "" →
              Labelled column.type (readColumn column.name (column.rest after) line)
                (column.ownLabels text)) := by
  refine ⟨fun i j start last => tokenize_slice_between read, ?_⟩
  rintro column behind rfl line others agrees again
  have own : labels (column.span line) = column.ownLabels text := by
    have same : column.span line = column.span text := slice_of_take agrees (Nat.le_refl _)
    rw [same]
    exact labels_of_group read
  let front := column.name :: column.type :: column.opening :: column.inner
  have whole : tokenize text = .ok (front ++ column.closing :: behind) := read
  obtain ⟨after, rfl⟩ := tokens_before_closing whole column.closes agrees again
  refine ⟨after, rfl, own, fun titled => ?_⟩
  rw [← own]
  exact column_labelled titled after line

/-- An enum with a doubled quote in one label and two words in the other. -/
def tagColumn : GroupedColumn where
  name := ⟨.identifier, "tag", 0, 5⟩
  type := ⟨.word, "enum", 6, 10⟩
  opening := ⟨.opening, "(", 10, 11⟩
  inner := [⟨.string, "it's", 11, 18⟩, ⟨.comma, ",", 18, 19⟩, ⟨.word, "b", 20, 21⟩,
    ⟨.word, "C", 22, 23⟩]
  closing := ⟨.closing, ")", 23, 24⟩
  typed := rfl
  opens := rfl
  inside := by decide
  closes := rfl

/-- A slice that ends with a literal, and a line with another literal right behind the group. -/
theorem slices_keep_tokens_tag :
    tokenize "`tag` enum('it''s', b C) null".toList =
        .ok (tagColumn.name :: tagColumn.rest [⟨.word, "null", 25, 29⟩]) ∧
      (∃ found, tokenize "enum('it''s'".toList = .ok found ∧
        found.map (Token.moved 6) = [tagColumn.type, tagColumn.opening,
          ⟨.string, "it's", 11, 18⟩]) ∧
      labels "enum('it''s', b C)".toList = .ok ["it's", "b c"] ∧
      ∃ after, tokenize "`tag` enum('it''s', b C)'x' unique".toList =
          .ok (tagColumn.name :: tagColumn.rest after) ∧
        (readColumn tagColumn.name (tagColumn.rest after)
          "`tag` enum('it''s', b C)'x' unique".toList).map Field.labels =
            .ok (some ["it's", "b c"]) := by
  have read : tokenize "`tag` enum('it''s', b C) null".toList =
      .ok (tagColumn.name :: tagColumn.rest [⟨.word, "null", 25, 29⟩]) := by decide +kernel
  have again : tokenize "`tag` enum('it''s', b C)'x' unique".toList =
      .ok (tagColumn.name :: tagColumn.rest
        [⟨.string, "x", 24, 27⟩, ⟨.word, "unique", 28, 34⟩]) := by decide +kernel
  have own : tagColumn.ownLabels "`tag` enum('it''s', b C) null".toList = .ok ["it's", "b c"] := by
    decide +kernel
  have agrees : "`tag` enum('it''s', b C)'x' unique".toList.take tagColumn.closing.stop =
      "`tag` enum('it''s', b C) null".toList.take tagColumn.closing.stop := by decide +kernel
  have literal : slice "`tag` enum('it''s', b C) null".toList 6 18 = "enum('it''s'".toList := by
    decide +kernel
  have span : tagColumn.span "`tag` enum('it''s', b C)'x' unique".toList =
      "enum('it''s', b C)".toList := by decide +kernel
  obtain ⟨between, grouped⟩ := slices_keep_tokens read
  have sliced := between 1 3 tagColumn.type ⟨.string, "it's", 11, 18⟩ (by decide) rfl rfl
  obtain ⟨after, same, found, labelled⟩ := grouped tagColumn _ rfl _ _ agrees again
  have enum := (labelled (by decide +kernel)).enum (by decide +kernel)
  rw [span, own] at found
  rw [own] at enum
  refine ⟨read, ?_, found, after, again.trans (congrArg _ same), enum⟩
  rw [← literal]
  exact sliced

end SchemaCompiler.Ddl
