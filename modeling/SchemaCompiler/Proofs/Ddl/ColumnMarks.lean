import SchemaCompiler.Proofs.Ddl.Frame
import SchemaCompiler.Proofs.Ddl.Spelling

/-!
Which columns a key line marks. The line names columns up to its first closing parenthesis, and
marking them changes the fields of these titles and no others.
-/

namespace SchemaCompiler.Ddl

open Text

/-! Columns that tokens name -/

/-- The identifiers in front of the first closing parenthesis, in lower case. -/
def namedColumns (said : List (TokenKind × String)) : List String :=
  ((said.takeWhile (·.1 != .closing)).filter (·.1 == .identifier)).map (lower ·.2)

@[simp]
theorem named_columns_cons (kind : TokenKind) (value : String) (rest : List (TokenKind × String)) :
    namedColumns ((kind, value) :: rest) =
      match kind with
      | .closing => []
      | .identifier => lower value :: namedColumns rest
      | _ => namedColumns rest := by
  cases kind <;> rfl

theorem listed_columns_said (tokens : List Token) :
    listedColumns tokens = namedColumns (tokens.map Token.said) := by
  induction tokens with
  | nil => rfl
  | cons t rest ih =>
      rw [listedColumns] at ih ⊢
      rw [List.map_cons, Token.said, named_columns_cons, ← ih]
      cases kind : t.kind <;> simp [kind]

theorem is_word_said (t : Token) (candidates : List String) :
    t.isWord candidates = (t.said.1 == .word && candidates.contains t.said.2) := by
  by_cases word : t.kind = .word
  · simp [Token.isWord, Token.said, word]
  · have other : (t.kind == .word) = false := by simpa using word
    simp [Token.isWord, Token.said, other]

/-! Lines that begin with a word -/

section Lines

variable {line : List Char} {t : Table} {word : String} {said : List (TokenKind × String)}

theorem worded_no_comment (worded : Worded line ((.word, word) :: said)) :
    isComment line = false := by
  obtain ⟨rest, rendered, _⟩ := worded
  obtain ⟨c, more, rfl, first⟩ : ∃ c more, line = c :: more ∧
      (isBlank c = true ∨ startsWord c = true) := by
    cases rendered with
    | blank gap _ => exact ⟨_, _, rfl, Or.inl gap⟩
    | word more letter => exact ⟨_, _, rfl, Or.inr letter⟩
    | mark mark => exact absurd rfl (mark_solid mark).2
  have other (d : Char) (opens : isBlank d = false ∧ startsWord d = false) : c ≠ d := by
    rintro rfl
    rcases first with gap | letter
    · rw [opens.1] at gap
      cases gap
    · rw [opens.2] at letter
      cases letter
  have dash := other '-' (by decide)
  have hash := other '#' (by decide)
  have slash := other '/' (by decide)
  simp [isComment, List.isPrefixOf, dash.symm, hash.symm, slash.symm]

/-- The tokens of a line that begins with a word. -/
theorem worded_tokens (worded : Worded line ((.word, word) :: said)) :
    ∃ first rest more, tokenize line = .ok (first :: rest) ∧ first.said = (.word, word) ∧
      rest.map Token.said = said ++ more := by
  obtain ⟨more, tokens, read, same⟩ := worded_told worded
  obtain ⟨first, rest, rfl, leads, others⟩ := List.map_eq_cons_iff.mp same
  exact ⟨first, rest, more, read, leads, others⟩

theorem is_word_of_said {first : Token} (leads : first.said = (.word, word))
    (candidates : List String) : first.isWord candidates = candidates.contains word := by
  rw [is_word_said, leads]
  rfl

theorem read_table_line_primary {first : Token} {rest : List Token}
    (noComment : isComment line = false) (read : tokenize line = .ok (first :: rest))
    (leads : first.said = (.word, "primary")) :
    readTableLine line t = readPrimaryKey (first :: rest) line t := by
  rw [readTableLine, noComment, read]
  simp [is_word_of_said leads]

theorem read_table_line_unique {first : Token} {rest : List Token}
    (noComment : isComment line = false) (read : tokenize line = .ok (first :: rest))
    (leads : first.said = (.word, "unique")) :
    readTableLine line t = readUniqueKey (first :: rest) t := by
  rw [readTableLine, noComment, read]
  simp [is_word_of_said leads]

end Lines

/-! Changes of some fields -/

/-- The fields of the given titles are changed and all others are as they were. -/
structure ChangedAt (columns : List String) (change : Field → Field) (before after : Table) :
    Prop where
  title : after.title = before.title
  fields : after.fields.entries =
    before.fields.entries.map fun f => if f.title ∈ columns then change f else f

instance (columns : List String) (change : Field → Field) (before after : Table) :
    Decidable (ChangedAt columns change before after) :=
  decidable_of_iff (after.title = before.title ∧ after.fields.entries =
    before.fields.entries.map fun f => if f.title ∈ columns then change f else f)
  ⟨fun ⟨a, b⟩ => ⟨a, b⟩, fun ⟨a, b⟩ => ⟨a, b⟩⟩

/-- A change that keeps titles and that says nothing new when it is made again. -/
structure Marking (change : Field → Field) : Prop where
  title : ∀ f, (change f).title = f.title
  again : ∀ f, change (change f) = change f

def asPrimary (f : Field) : Field := { f with primary := true }

def asUnique (f : Field) : Field := { f with unique := true }

def referring (target : String) (f : Field) : Field := { f with foreign := some target }

theorem as_primary_same (f : Field) : asPrimary f = f ↔ f.primary = true := by
  cases f
  simp [asPrimary, eq_comm]

theorem as_unique_same (f : Field) : asUnique f = f ↔ f.unique = true := by
  cases f
  simp [asUnique, eq_comm]

theorem referring_same (target : String) (f : Field) :
    referring target f = f ↔ f.foreign = some target := by
  cases f
  simp [referring, eq_comm]

theorem as_primary_marking : Marking asPrimary := ⟨fun _ => rfl, fun _ => rfl⟩

theorem referring_marking (target : String) : Marking (referring target) :=
  ⟨fun _ => rfl, fun _ => rfl⟩

section Changes

variable {change : Field → Field} {t middle after : Table} {column : String}
  {columns done : List String}

theorem changed_nowhere (change : Field → Field) (t : Table) : ChangedAt [] change t t :=
  ⟨rfl, by simp⟩

theorem changed_cons (marking : Marking change) (first : ChangedAt [column] change t middle)
    (others : ChangedAt columns change middle after) :
    ChangedAt (column :: columns) change t after := by
  refine ⟨others.title.trans first.title, ?_⟩
  rw [others.fields, first.fields, List.map_map]
  apply List.map_congr_left
  intro f _
  -- A column that is listed twice is changed twice, which is the same as once.
  by_cases here : f.title = column
  · by_cases again : column ∈ columns
    · simp [here, again, marking.title, marking.again]
    · simp [here, again, marking.title]
  · simp [here]

/-- A title that no field has changes nothing. -/
theorem changed_unknown (unknown : t.fields.contains column = false)
    (others : ChangedAt columns change t after) : ChangedAt (column :: columns) change t after := by
  refine ⟨others.title, ?_⟩
  rw [others.fields]
  apply List.map_congr_left
  intro f member
  have other : f.title ≠ column := by
    rintro rfl
    have known : f.title ∈ t.fields.titles := List.mem_map_of_mem member
    simp [Catalog.contains, known] at unknown
  simp [other]

theorem changed_titles (marking : Marking change) (changed : ChangedAt columns change t after) :
    after.fields.titles = t.fields.titles := by
  rw [Catalog.titles, changed.fields, List.map_map]
  apply List.map_congr_left
  intro f _
  by_cases here : f.title ∈ columns
  · simp [here, Titled.title, marking.title]
  · simp [here]

/-- What was changed in some places is changed in others when the places differ only where the
change says nothing new. -/
theorem changed_at_iff (changed : ChangedAt done change t after) :
    ChangedAt columns change t after ↔
      ∀ f ∈ t.fields.entries, (f.title ∈ done ↔ f.title ∈ columns) ∨ change f = f := by
  have same : ChangedAt columns change t after ↔
      ∀ f ∈ t.fields.entries, (if f.title ∈ done then change f else f) =
        if f.title ∈ columns then change f else f := by
    rw [← List.map_inj_left, ← changed.fields]
    exact ⟨fun other => other.fields, fun fields => ⟨changed.title, fields⟩⟩
  rw [same]
  refine forall₂_congr fun f _ => ?_
  by_cases first : f.title ∈ done
  · by_cases second : f.title ∈ columns
    · simp [first, second]
    · simp [first, second]
  · by_cases second : f.title ∈ columns
    · simp [first, second, eq_comm]
    · simp [first, second]

end Changes

/-! Marks -/

theorem mark_primary_changed (line : List Char) {columns : List String} {t : Table}
    (known : ∀ column ∈ columns, t.fields.contains column = true) :
    (markPrimaryColumns line t columns).failure = none ∧
      (markPrimaryColumns line t columns).notes = [] ∧
      ChangedAt columns asPrimary t (markPrimaryColumns line t columns).table := by
  induction columns generalizing t with
  | nil => exact ⟨rfl, rfl, changed_nowhere asPrimary t⟩
  | cons column rest ih =>
      have first : ChangedAt [column] asPrimary t (t.markPrimary column) :=
        ⟨rfl, by simp [Table.markPrimary, Catalog.modify, Catalog.modifyEntries, Titled.title,
          asPrimary]⟩
      have others := ih (t := t.markPrimary column) fun other member => by
        rw [Catalog.contains, changed_titles as_primary_marking first]
        exact known other (List.mem_cons_of_mem column member)
      rw [markPrimaryColumns, if_pos (known column (by simp))]
      exact ⟨others.1, others.2.1, changed_cons as_primary_marking first others.2.2⟩

theorem mark_unique_changed (t : Table) (column : String) :
    ChangedAt [column] asUnique t (t.markUnique column) :=
  ⟨rfl, by simp [Table.markUnique, Catalog.modify, Catalog.modifyEntries, Titled.title, asUnique]⟩

theorem mark_foreign_changed (target : String) (t : Table) (columns : List String) :
    ChangedAt columns (referring target) t (markForeignColumns target t columns).table := by
  induction columns generalizing t with
  | nil => exact changed_nowhere _ t
  | cons column rest ih =>
      rw [markForeignColumns]
      split
      · have first : ChangedAt [column] (referring target) t (t.markForeign column target) :=
          ⟨rfl, by simp [Table.markForeign, Catalog.modify, Catalog.modifyEntries, Titled.title,
            referring]⟩
        exact changed_cons (referring_marking target) first (ih _)
      · next unknown => exact changed_unknown (by simpa using unknown) (ih t)

end SchemaCompiler.Ddl
