import SchemaCompiler.Proofs.Ddl.ColumnMarks

/-!
Primary and unique key lines. A key names its columns in parts, which may say how many characters
of a column count and in which order. The reader stops at the first closing parenthesis, so the
parts behind one with a length are not seen: their columns are not marked, and a key of several
parts may be taken for a key of one.
-/

namespace SchemaCompiler.Ddl

open Text

/-! How keys are worded -/

/-- A part of a key: a column, at most with the length of what counts of it and with a word for
its order. -/
structure KeyPart where
  column : String
  length : Option String := none
  order : Option String := none

def KeyPart.said (p : KeyPart) : List (TokenKind × String) :=
  (.identifier, p.column) ::
    ((p.length.elim [] fun digits => [(.opening, "("), (.number, digits), (.closing, ")")]) ++
      p.order.elim [] fun word => [(.word, word)])

/-- Items with commas between them. -/
def listing : List (List (TokenKind × String)) → List (TokenKind × String)
  | [] => []
  | [last] => last
  | item :: rest => item ++ (.comma, ",") :: listing rest

def bracketed (items : List (List (TokenKind × String))) : List (TokenKind × String) :=
  (.opening, "(") :: (listing items ++ [(.closing, ")")])

def primaryKey (parts : List KeyPart) : List (TokenKind × String) :=
  (.word, "primary") :: (.word, "key") :: bracketed (parts.map KeyPart.said)

def uniqueKey (name : String) (parts : List KeyPart) : List (TokenKind × String) :=
  (.word, "unique") :: (.word, "key") :: (.identifier, name) ::
    bracketed (parts.map KeyPart.said)

def columnsOf (parts : List KeyPart) : List String := parts.map fun p => lower p.column

/-- The parts up to the first one with a length. -/
def seenParts : List KeyPart → List KeyPart
  | [] => []
  | p :: rest => if p.length.isSome then [p] else p :: seenParts rest

/-! What is read of them -/

/-- A part names its column, and its length closes the list of columns. -/
theorem named_columns_part (p : KeyPart) (behind : List (TokenKind × String)) :
    namedColumns (p.said ++ behind) =
      lower p.column :: if p.length.isSome then [] else namedColumns behind := by
  obtain ⟨column, length, order⟩ := p
  cases length with
  | none =>
      cases order with
      | none => simp [KeyPart.said]
      | some word => simp [KeyPart.said]
  | some digits => simp [KeyPart.said]

theorem columns_of_seen (p : KeyPart) (rest : List KeyPart) :
    columnsOf (seenParts (p :: rest)) =
      lower p.column :: if p.length.isSome then [] else columnsOf (seenParts rest) := by
  by_cases closed : p.length.isSome = true
  · simp [seenParts, columnsOf, closed]
  · simp [seenParts, columnsOf, closed]

theorem named_columns_listing (parts : List KeyPart) (behind : List (TokenKind × String)) :
    namedColumns (listing (parts.map KeyPart.said) ++ (.closing, ")") :: behind) =
      columnsOf (seenParts parts) := by
  induction parts with
  | nil => rfl
  | cons p rest ih =>
      rw [columns_of_seen, ← ih]
      cases rest with
      | nil => exact named_columns_part p _
      | cons next more =>
          have shape : listing ((p :: next :: more).map KeyPart.said) =
              p.said ++ (.comma, ",") :: listing ((next :: more).map KeyPart.said) := rfl
          rw [shape, List.append_assoc, List.cons_append, named_columns_part, named_columns_cons]

theorem named_columns_bracketed (parts : List KeyPart) (behind : List (TokenKind × String)) :
    namedColumns (bracketed (parts.map KeyPart.said) ++ behind) = columnsOf (seenParts parts) := by
  rw [bracketed, List.cons_append, named_columns_cons, List.append_assoc]
  exact named_columns_listing parts behind

theorem seen_subset (parts : List KeyPart) : columnsOf (seenParts parts) ⊆ columnsOf parts := by
  induction parts with
  | nil => simp [seenParts]
  | cons p rest ih =>
      have whole : columnsOf (p :: rest) = lower p.column :: columnsOf rest := rfl
      rw [columns_of_seen, whole]
      apply List.cons_subset_cons
      split
      · exact List.nil_subset _
      · exact ih

section Lines

variable {parts : List KeyPart} {t : Table} {line : List Char}

/-- All columns of a key are columns of the table. -/
def KnownIn (t : Table) (parts : List KeyPart) : Prop :=
  ∀ p ∈ parts, t.fields.contains (lower p.column) = true

theorem known_seen (known : KnownIn t parts) :
    ∀ column ∈ columnsOf (seenParts parts), t.fields.contains column = true := by
  intro column member
  obtain ⟨p, among, rfl⟩ := List.mem_map.mp (seen_subset parts member)
  exact known p among

theorem primary_key_read (worded : Worded line (primaryKey parts)) (present : parts ≠ []) :
    readTableLine line t = markPrimaryColumns line t (columnsOf (seenParts parts)) := by
  obtain ⟨first, rest, more, read, leads, others⟩ := worded_tokens worded
  obtain ⟨key, behind, rfl, _, list⟩ := List.map_eq_cons_iff.mp others
  have columns : listedColumns behind = columnsOf (seenParts parts) := by
    rw [listed_columns_said, list]
    exact named_columns_bracketed parts more
  rw [read_table_line_primary (worded_no_comment worded) read leads, readPrimaryKey,
    List.drop_succ_cons, List.drop_succ_cons, List.drop_zero, columns]
  obtain ⟨p, later, rfl⟩ := List.exists_cons_of_ne_nil present
  rw [columns_of_seen]

/-- What a unique key says of its columns: something of one, nothing of several. -/
def sole : List String → List String
  | [column] => [column]
  | _ => []

theorem unique_key_changed {name : String} (worded : Worded line (uniqueKey name parts))
    (known : KnownIn t parts) :
    (readTableLine line t).failure = none ∧ (readTableLine line t).notes = [] ∧
      ChangedAt (sole (columnsOf (seenParts parts))) asUnique t (readTableLine line t).table := by
  obtain ⟨first, rest, more, read, leads, others⟩ := worded_tokens worded
  obtain ⟨key, behind, rfl, second, list⟩ := List.map_eq_cons_iff.mp others
  obtain ⟨index, items, rfl, third, bracket⟩ := List.map_eq_cons_iff.mp list
  obtain ⟨opening, inner, rfl, fourth, _⟩ := List.map_eq_cons_iff.mp bracket
  have kind (t : Token) {said : TokenKind × String} (same : t.said = said) : t.kind = said.1 :=
    congrArg Prod.fst same
  have tail : (first :: key :: index :: opening :: inner).dropWhile (·.kind != .opening) =
      opening :: inner := by
    simp [kind first leads, kind key second, kind index third, kind opening fourth]
  have columns : listedColumns (opening :: inner) = columnsOf (seenParts parts) := by
    rw [listed_columns_said, bracket]
    exact named_columns_bracketed parts more
  have listed := known_seen known
  rw [read_table_line_unique (worded_no_comment worded) read leads, readUniqueKey, tail, columns,
    if_neg (by simp [kind opening fourth])]
  generalize columnsOf (seenParts parts) = columns at listed
  cases columns with
  | nil => exact ⟨rfl, rfl, changed_nowhere asUnique t⟩
  | cons column others =>
      cases others with
      | nil =>
          dsimp only
          rw [if_pos (listed column (by simp))]
          exact ⟨rfl, rfl, mark_unique_changed t column⟩
      | cons other more => exact ⟨rfl, rfl, changed_nowhere asUnique t⟩

/-- A key of several parts is seen as a key of one when its first part has a length. -/
theorem sole_seen (p q : KeyPart) (rest : List KeyPart) :
    sole (columnsOf (seenParts (p :: q :: rest))) =
      if p.length.isSome then [lower p.column] else [] := by
  rw [columns_of_seen, columns_of_seen]
  split
  · rfl
  · rfl

/-- A primary key line makes its columns primary, and a unique key line the column of its only
part unique, and nothing else changes, unless a part that is not the last one has a length: a
column behind it is made primary only if it is primary already or named in front, and if it is the
first one, its column is made unique. -/
theorem key_lines_mark (present : parts ≠ []) (known : KnownIn t parts) :
    (Worded line (primaryKey parts) →
      (readTableLine line t).failure = none ∧ (readTableLine line t).notes = [] ∧
        (ChangedAt (columnsOf parts) asPrimary t (readTableLine line t).table ↔
          ∀ f ∈ t.fields.entries, f.title ∈ columnsOf parts →
            f.title ∈ columnsOf (seenParts parts) ∨ f.primary = true)) ∧
      ∀ name, Worded line (uniqueKey name parts) →
        (readTableLine line t).failure = none ∧ (readTableLine line t).notes = [] ∧
          (ChangedAt (sole (columnsOf parts)) asUnique t (readTableLine line t).table ↔
            parts.length = 1 ∨ ∀ p, parts.head? = some p → p.length = none ∨
              ∀ f ∈ t.fields.entries, f.title = lower p.column → f.unique = true) := by
  constructor
  · intro worded
    have marks := mark_primary_changed line (known_seen known)
    have within (f : Field) := @seen_subset parts f.title
    rw [primary_key_read worded present]
    -- The seen columns are marked, all of them should be: they differ behind a length.
    refine ⟨marks.1, marks.2.1, (changed_at_iff marks.2.2).trans (forall₂_congr fun f _ => ?_)⟩
    rw [as_primary_same]
    tauto
  · intro name worded
    have marks := unique_key_changed worded known
    refine ⟨marks.1, marks.2.1, (changed_at_iff marks.2.2).trans ?_⟩
    -- A part alone is always seen; of several parts it takes a length to see only one.
    obtain ⟨p, others, rfl⟩ := List.exists_cons_of_ne_nil present
    cases others with
    | nil =>
        have seen : seenParts [p] = [p] := by simp [seenParts]
        simp [seen]
    | cons q rest =>
        have wanted : sole (columnsOf (p :: q :: rest)) = [] := rfl
        rw [sole_seen, wanted]
        cases length : p.length with
        | none => simp [length]
        | some digits => simp [as_unique_same, length, or_iff_not_imp_left]

end Lines

def twoColumns : Table :=
  { title := "orders", fields := Catalog.ofList [{ title := "id" }, { title := "no" }] }

/-- A primary key whose last part has a length and an order, and a unique key of one part. -/
theorem key_lines_mark_orders :
    ChangedAt ["id", "no"] asPrimary twoColumns
        (readTableLine "PRIMARY key (`Id`,`no`(9) DESC),".toList twoColumns).table ∧
      ChangedAt ["no"] asUnique twoColumns
        (readTableLine "unique key `k` (`no`asc)".toList twoColumns).table := by
  have comma : ∃ tokens, tokenize [','] = .ok tokens := Outcome.exists_ok (by decide +kernel)
  have primary : Worded "PRIMARY key (`Id`,`no`(9) DESC),".toList
      (primaryKey [{ column := "Id" }, { column := "no", length := "9", order := "desc" }]) :=
    ⟨[','], .word "RIMARY".toList rfl (by decide) (word_ends rfl _) (by decide +kernel) <|
      .blank rfl <| .word "ey".toList rfl (by decide) (word_ends rfl _) (by decide +kernel) <|
      .blank rfl <| .mark (c := '(') (by decide) <| .name "Id".toList (by decide) <|
      .mark (c := ',') (by decide) <| .name "no".toList (by decide) <|
      .mark (c := '(') (by decide) <| .number ['9'] (by decide) (by simp [AsciiDigits]; decide)
        (by rintro d ⟨⟩; rfl) (by decide) <|
      .mark (c := ')') (by decide) <| .blank rfl <|
      .word "ESC".toList rfl (by decide) (word_ends rfl _) (by decide +kernel) <|
      .mark (c := ')') (by decide) .done, comma⟩
  have unique : Worded "unique key `k` (`no`asc)".toList
      (uniqueKey "k" [{ column := "no", order := "asc" }]) :=
    ⟨[], .word "nique".toList rfl (by decide) (word_ends rfl _) (by decide +kernel) <|
      .blank rfl <| .word "ey".toList rfl (by decide) (word_ends rfl _) (by decide +kernel) <|
      .blank rfl <| .name "k".toList (by decide) <| .blank rfl <|
      .mark (c := '(') (by decide) <| .name "no".toList (by decide) <|
      .word "sc".toList rfl (by decide) (word_ends rfl _) (by decide +kernel) <|
      .mark (c := ')') (by decide) .done, [], rfl⟩
  have lowered : columnsOf
      [{ column := "Id" }, { column := "no", length := "9", order := "desc" }] =
        ["id", "no"] := by decide +kernel
  have kept : sole (columnsOf [{ column := "no", order := "asc" }]) = ["no"] := by decide +kernel
  constructor
  · rw [← lowered]
    refine ((key_lines_mark (by simp) ?_).1 primary).2.2.mpr fun _ _ named => Or.inl named
    simp only [KnownIn, List.forall_mem_cons]
    exact ⟨by decide +kernel, by decide +kernel, by simp⟩
  · rw [← kept]
    refine ((key_lines_mark (by simp) ?_).2 "k" unique).2.2.mpr (Or.inl rfl)
    simp only [KnownIn, List.forall_mem_cons]
    exact ⟨by decide +kernel, by simp⟩

/-- Behind a part with a length no column is read: the second column of the primary key is not
marked, and a key of two columns makes the first one unique. -/
theorem length_hides_columns :
    ¬ ChangedAt ["id", "no"] asPrimary twoColumns
        (readTableLine "PRIMARY KEY (`id`(10), `no`)".toList twoColumns).table ∧
      ¬ ChangedAt [] asUnique twoColumns
        (readTableLine "UNIQUE KEY `k` (`id`(10), `no`)".toList twoColumns).table := by
  decide +kernel

end SchemaCompiler.Ddl
