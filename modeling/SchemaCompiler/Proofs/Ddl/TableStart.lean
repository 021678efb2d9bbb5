import Mathlib.Data.List.TakeWhile
import SchemaCompiler.Proofs.Ddl.TableMarker
import SchemaCompiler.Proofs.Schema.Database

/-!
Which lines start a table. The reader looks for the two words in the raw text of a line, so what
a comment or a literal holds counts as well; without the words, comments do nothing and column
lines change nothing but the open table.
-/

namespace SchemaCompiler.Ddl

open Text

/-- The word in whatever case, given in capitals. -/
def Spells (word : String) (text : List Char) : Prop := text.map asciiUpperChar = word.toList

/-- The text starts with the two words that start a table, with blanks between them and no part
of a word behind them. -/
def StartsPhrase (text : List Char) : Prop :=
  ∃ create gap table back, text = create ++ (gap ++ (table ++ back)) ∧ Spells "CREATE" create ∧
    (gap ≠ [] ∧ ∀ c ∈ gap, isBlank c = true) ∧ Spells "TABLE" table ∧
    ∀ c, back.head? = some c → isWordChar c = false

/-- The two words stand somewhere in the line, with no part of a word in front of them. -/
def HoldsPhrase (line : List Char) : Prop :=
  ∃ front rest, line = front ++ rest ∧ StartsPhrase rest ∧
    ∀ c, front.getLast? = some c → isWordChar c = false

theorem drop_keyword_iff {word text rest : List Char} :
    dropKeyword? word text = some rest ↔
      ∃ front, text = front ++ rest ∧ front.map asciiUpperChar = word := by
  simp only [dropKeyword?, Option.ite_none_right_eq_some, Bool.and_eq_true, beq_iff_eq,
    Option.some.injEq]
  constructor
  · rintro ⟨⟨_, spelled⟩, rfl⟩
    exact ⟨text.take word.length, (List.take_append_drop _ text).symm, spelled⟩
  · rintro ⟨front, rfl, rfl⟩
    simp

theorem drop_blanks {gap rest : List Char} (blank : ∀ c ∈ gap, isBlank c = true)
    (solid : ∀ c, rest.head? = some c → isBlank c = false) :
    (gap ++ rest).dropWhile isBlank = rest := by
  rw [List.dropWhile_append_of_pos blank]
  cases rest with
  | nil => rfl
  | cons c more => simp [solid c rfl]

theorem blank_capital {c : Char} (blank : isBlank c = true) : asciiUpperChar c = c := by
  have small : isAsciiLower c = false := by
    refine Bool.eq_false_iff.mpr fun lower => ?_
    have range := ascii_lower_range lower
    simp [isBlank] at blank
    omega
  simp [asciiUpperChar, small]

/-- The second word starts with a letter, so no blank is taken from it. -/
theorem table_solid {table : List Char} (spelled : Spells "TABLE" table) (back : List Char) :
    ∀ c, (table ++ back).head? = some c → isBlank c = false := by
  cases table with
  | nil => cases spelled
  | cons first rest =>
      rintro c ⟨⟩
      have letter : asciiUpperChar first = 'T' := (List.cons.inj spelled).1
      cases blank : isBlank first with
      | false => rfl
      | true =>
          rw [blank_capital blank] at letter
          rw [letter] at blank
          cases blank

theorem behind_head_iff (back : List Char) :
    (!(back.head?.map isWordChar).getD false) = true ↔
      ∀ c, back.head? = some c → isWordChar c = false := by
  cases back with
  | nil => simp
  | cons c rest => simp

theorem starts_create_table_iff (text : List Char) :
    startsCreateTable text = true ↔ StartsPhrase text := by
  constructor
  · intro starts
    rw [startsCreateTable] at starts
    split at starts
    · cases starts
    · next rest first =>
      obtain ⟨create, rfl, spelled⟩ := drop_keyword_iff.mp first
      split at starts
      · next c more =>
        obtain ⟨blank, starts⟩ := Bool.and_eq_true_iff.mp starts
        split at starts
        · cases starts
        · next back second =>
          obtain ⟨table, found, word⟩ := drop_keyword_iff.mp second
          refine ⟨create, (c :: more).takeWhile isBlank, table, back, ?_, spelled,
            ⟨?_, fun d among => List.mem_takeWhile_imp among⟩, word,
            (behind_head_iff back).mp starts⟩
          · rw [← found, List.takeWhile_append_dropWhile]
          · simp [blank]
      · cases starts
  · rintro ⟨create, gap, table, back, rfl, spelled, ⟨present, blank⟩, word, ends⟩
    have first : dropKeyword? "CREATE".toList (create ++ (gap ++ (table ++ back))) =
        some (gap ++ (table ++ back)) := drop_keyword_iff.mpr ⟨create, rfl, spelled⟩
    have second : dropKeyword? "TABLE".toList (table ++ back) = some back :=
      drop_keyword_iff.mpr ⟨table, rfl, word⟩
    have skipped := drop_blanks blank (table_solid word back)
    rw [startsCreateTable, first]
    obtain ⟨c, more, rfl⟩ := List.exists_cons_of_ne_nil present
    rw [List.cons_append] at skipped ⊢
    simp only [skipped, second, blank c (by simp), Bool.true_and]
    exact (behind_head_iff back).mpr ends

/-- The search, with what it knows of the character in front of the text. -/
theorem has_create_table_iff (inWord : Bool) (text : List Char) :
    hasCreateTable inWord text = true ↔
      ∃ front rest, text = front ++ rest ∧ StartsPhrase rest ∧ (front = [] → inWord = false) ∧
        ∀ c, front.getLast? = some c → isWordChar c = false := by
  induction text generalizing inWord with
  | nil =>
      constructor
      · intro none
        cases none
      · rintro ⟨front, rest, whole, starts, _⟩
        obtain ⟨rfl, rfl⟩ := List.append_eq_nil_iff.mp whole.symm
        rw [← starts_create_table_iff] at starts
        cases starts
  | cons c rest ih =>
      rw [hasCreateTable, Bool.or_eq_true_iff, Bool.and_eq_true_iff, starts_create_table_iff, ih]
      constructor
      · rintro (⟨outside, starts⟩ | ⟨front, behind, rfl, starts, first, last⟩)
        · exact ⟨[], c :: rest, rfl, starts, fun _ => by simpa using outside, by simp⟩
        · refine ⟨c :: front, behind, rfl, starts, by simp, ?_⟩
          cases front with
          | nil => simpa using first rfl
          | cons d more => simpa using last
      · rintro ⟨front, behind, whole, starts, first, last⟩
        cases front with
        | nil =>
            rw [List.nil_append] at whole
            exact Or.inl ⟨by simpa using first rfl, whole ▸ starts⟩
        | cons d more =>
            obtain ⟨rfl, rfl⟩ := List.cons.inj whole
            refine Or.inr ⟨more, behind, rfl, starts, ?_, ?_⟩
            · rintro rfl
              exact last c rfl
            · intro e final
              cases more with
              | nil => cases final
              | cons f others => exact last e (by simpa using final)

theorem holds_phrase_iff (line : List Char) :
    hasCreateTable false line = true ↔ HoldsPhrase line := by
  simp [has_create_table_iff, HoldsPhrase]

instance (line : List Char) : Decidable (HoldsPhrase line) :=
  decidable_of_iff _ (holds_phrase_iff line)

/-! Comments and column lines -/

section Lines

variable {reading : Reading} {line : List Char}

theorem advance_phrase (holds : HoldsPhrase line) :
    advance reading line = openTable reading line := by
  rw [advance, if_pos ((holds_phrase_iff line).mpr holds)]

/-- Without the two words, a line between tables does nothing. -/
theorem advance_outside (quiet : ¬ HoldsPhrase line) (outside : reading.position = .outside) :
    advance reading line = { reading } := by
  rw [advance, if_neg (mt (holds_phrase_iff line).mp quiet)]
  simp [outside]

/-- Without the two words, a line inside a table that does not begin as its end does is read into
the table. -/
theorem advance_inside {first : Char} {rest : List Char} {title : String} {t : Table}
    (quiet : ¬ HoldsPhrase (first :: rest)) (other : first ≠ ')')
    (inside : reading.position = .inside title) (found : reading.database.table? title = some t) :
    advance reading (first :: rest) =
      { reading :=
          { reading with
            database := reading.database.update (readTableLine (first :: rest) t).table }
        notes := (readTableLine (first :: rest) t).notes
        failure := (readTableLine (first :: rest) t).failure } := by
  have open_ : closesTable (first :: rest) = false := by simp [closesTable, other]
  rw [advance, if_neg (mt (holds_phrase_iff _).mp quiet)]
  simp [inside, found, open_]

theorem comment_ignored (comment : "--".toList <+: line ∨ ['#'] <+: line) (t : Table) :
    readTableLine line t = { table := t } := by
  have ignored : isComment line = true := by
    simp only [isComment, Bool.or_eq_true, List.isPrefixOf_iff_prefix]
    exact Or.inl comment
  rw [readTableLine, if_pos ignored]

theorem comment_first (comment : "--".toList <+: line ∨ ['#'] <+: line) :
    ∃ first rest, line = first :: rest ∧ first ≠ ')' := by
  rcases comment with ⟨rest, rfl⟩ | ⟨rest, rfl⟩
  · exact ⟨'-', _, rfl, by decide⟩
  · exact ⟨'#', _, rfl, by decide⟩

theorem advance_comment (quiet : ¬ HoldsPhrase line)
    (comment : "--".toList <+: line ∨ ['#'] <+: line) : advance reading line = { reading } := by
  cases position : reading.position with
  | outside => exact advance_outside quiet position
  | inside title =>
      cases found : reading.database.table? title with
      | none =>
          rw [advance, if_neg (mt (holds_phrase_iff line).mp quiet)]
          simp [position, found]
      | some t =>
          obtain ⟨first, rest, rfl, other⟩ := comment_first comment
          rw [advance_inside quiet other position found, comment_ignored comment,
            Database.update_found found]

end Lines

/-- A line that holds the two words opens a table, whatever it is. Without them, a comment does
nothing, and a line that begins with a name in backticks does nothing between tables and, inside
one, to that table what it does to the table by itself. -/
theorem quoted_text_kept (reading : Reading) (line : List Char) :
    (HoldsPhrase line → advance reading line = openTable reading line) ∧
    (¬ HoldsPhrase line → "--".toList <+: line ∨ ['#'] <+: line →
      advance reading line = { reading }) ∧
    ∀ name rest, line = '\x60' :: (name ++ '\x60' :: rest) → ¬ HoldsPhrase line →
      (reading.position = .outside → advance reading line = { reading }) ∧
      ∀ title t, reading.position = .inside title → reading.database.table? title = some t →
        advance reading line =
          { reading :=
              ⟨.inside title, reading.database.update (readTableLine line t).table⟩
            notes := (readTableLine line t).notes
            failure := (readTableLine line t).failure } := by
  refine ⟨advance_phrase, advance_comment, ?_⟩
  rintro name rest rfl quiet
  refine ⟨advance_outside quiet, fun title t inside found => ?_⟩
  rw [advance_inside quiet (by decide) inside found, ← inside]

def insideOrders : Reading :=
  ⟨.inside "orders", Database.add { title := "shop" } { title := "orders" }⟩

/-- Words that almost start a table, in a comment and in a literal. -/
theorem quoted_text_kept_orders :
    advance insideOrders "-- created tables".toList = { reading := insideOrders } ∧
    (advance insideOrders "`note` varchar(9) COMMENT 'create (table'".toList).reading =
      ⟨.inside "orders", insideOrders.database.update
        (readTableLine "`note` varchar(9) COMMENT 'create (table'".toList
          { title := "orders" }).table⟩ := by
  constructor
  · have comment : "--".toList <+: "-- created tables".toList := by decide +kernel
    exact (quoted_text_kept _ _).2.1 (by decide +kernel) (Or.inl comment)
  · have column := (quoted_text_kept insideOrders
      "`note` varchar(9) COMMENT 'create (table'".toList).2.2 "note".toList
        " varchar(9) COMMENT 'create (table'".toList (by decide +kernel) (by decide +kernel)
    rw [column.2 "orders" { title := "orders" } rfl (by decide +kernel)]

/-- A comment that holds the two words opens a table, and so does a column with a label that
holds them. -/
theorem quoted_text_opens :
    (advance { database := { title := "shop" } } "-- CREATE TABLE `t` (".toList).reading.position =
      .inside "t" ∧
    (advance insideOrders "`state` enum('create table')".toList).reading.position =
      .inside "state" := by
  decide +kernel

end SchemaCompiler.Ddl
