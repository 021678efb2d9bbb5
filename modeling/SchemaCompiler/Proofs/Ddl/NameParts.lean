import SchemaCompiler.Ddl.Reader
import SchemaCompiler.Proofs.Outcome
import SchemaCompiler.Proofs.Text.Cutting

/-!
The name in the line of a table. The first word that starts with a backtick holds it. Of a word of
several parts, with a dot between backticks in front of each but the first, the last one counts,
and the name is what stands between the first two backticks.
-/

namespace SchemaCompiler.Ddl

open Text

/-! The first word -/

/-- The text up to the first blank. -/
def wordAt (text : List Char) : List Char := text.takeWhile fun c => !isBlank c

theorem word_at_blank {c : Char} (blank : isBlank c = true) (rest : List Char) :
    wordAt (c :: rest) = [] := by
  simp [wordAt, blank]

@[simp]
theorem word_at_tick (rest : List Char) : wordAt ('\x60' :: rest) = '\x60' :: wordAt rest := by
  simp [wordAt, (by decide : isBlank '\x60' = false)]

@[simp]
theorem word_at_dot (rest : List Char) : wordAt ('.' :: rest) = '.' :: wordAt rest := by
  simp [wordAt, (by decide : isBlank '.' = false)]

theorem word_at_append {front : List Char} (solid : ∀ c ∈ front, isBlank c = false)
    (back : List Char) : wordAt (front ++ back) = front ++ wordAt back :=
  List.takeWhile_append_of_pos fun c member => by simp [solid c member]

theorem quoted_solid {text : List Char} (solid : ∀ c ∈ text, isBlank c = false) :
    ∀ c ∈ '\x60' :: (text ++ ['\x60']), isBlank c = false := by
  simp only [List.mem_cons, List.mem_append, List.not_mem_nil, or_false]
  rintro c (rfl | inside | rfl)
  · decide
  · exact solid c inside
  · decide

/-- A word does not go on behind a blank. -/
theorem word_at_broken {front : List Char} (broken : front.any isBlank = true)
    (back : List Char) : wordAt (front ++ back) = wordAt front := by
  induction front with
  | nil => cases broken
  | cons c rest ih =>
      by_cases blank : isBlank c = true
      · rw [List.cons_append, word_at_blank blank, word_at_blank blank]
      · have later : rest.any isBlank = true := by simpa [blank] using broken
        have tail := ih later
        rw [wordAt] at tail ⊢
        simp [blank, tail, wordAt]

theorem runs_outside_word {word : List Char} (begun : word ≠ []) (text : List Char) :
    ∃ others, runsOutside isBlank word text = (word.reverse ++ wordAt text) :: others := by
  induction text generalizing word with
  | nil => exact ⟨[], by simp [runsOutside, wordAt, begun]⟩
  | cons c rest ih =>
      by_cases blank : isBlank c = true
      · exact ⟨runsOutside isBlank [] rest, by simp [runsOutside, wordAt, blank, begun]⟩
      · obtain ⟨others, same⟩ := ih (List.cons_ne_nil c word)
        exact ⟨others, by simpa [runsOutside, wordAt, blank] using same⟩

/-- The first word that starts with a backtick stands behind a text without such words. -/
theorem find_quoted_word {front : List Char} (more : List Char)
    (spaced : front.getLast?.all isBlank = true)
    (unquoted : ∀ word ∈ words front, word.head? ≠ some '\x60') :
    (words (front ++ '\x60' :: more)).find? (·.head? == some '\x60') =
      some (wordAt ('\x60' :: more)) := by
  obtain ⟨others, first⟩ : ∃ others, words ('\x60' :: more) = wordAt ('\x60' :: more) :: others :=
    runs_outside_word (List.cons_ne_nil '\x60' []) more
  rcases List.eq_nil_or_concat front with rfl | ⟨before, c, whole⟩
  · rw [List.nil_append, first]
    simp
  · -- The blank at the end of the text keeps its words apart from what follows.
    rw [List.concat_eq_append] at whole
    subst whole
    have blank : isBlank c = true := by simpa using spaced
    have fore : words (before ++ [c]) = words before := by
      rw [words, runs_outside_gap blank]
      simp [words, runsOutside]
    rw [fore] at unquoted
    have none : (words before).find? (·.head? == some '\x60') = none := by
      simpa using unquoted
    rw [List.append_assoc, List.singleton_append, words, runs_outside_gap blank,
      List.find?_append, ← words, ← words, none, first]
    simp

/-! The last part -/

/-- No dot between backticks stands in the text. -/
def Unmarked (text : List Char) : Prop := ¬ ['\x60', '.', '\x60'] <:+: text

instance (text : List Char) : Decidable (Unmarked text) :=
  inferInstanceAs (Decidable (¬ ['\x60', '.', '\x60'] <:+: text))

theorem infix_behind {c : Char} {mark front back : List Char} (absent : c ∉ front)
    (inside : c :: mark <:+: front ++ back) : c :: mark <:+: back := by
  induction front with
  | nil => exact inside
  | cons d rest ih =>
      rcases List.infix_cons_iff.mp inside with ⟨behind, here⟩ | deeper
      · obtain ⟨rfl, _⟩ := List.cons.inj here
        exact absurd (List.mem_cons_self) absent
      · exact ih (fun member => absent (List.mem_cons_of_mem d member)) deeper

theorem unmarked_plain {text : List Char} (plain : '\x60' ∉ text) : Unmarked ('\x60' :: text) := by
  intro inside
  rcases List.infix_cons_iff.mp inside with ⟨behind, here⟩ | deeper
  · obtain ⟨_, rfl⟩ := List.cons.inj here
    exact plain (by simp)
  · exact plain (deeper.subset (by simp))

theorem unmarked_name {name tail : List Char} (plain : '\x60' ∉ name) (noDot : name ≠ ['.'])
    (clear : Unmarked ('\x60' :: tail)) : Unmarked ('\x60' :: (name ++ '\x60' :: tail)) := by
  intro inside
  rcases List.infix_cons_iff.mp inside with ⟨behind, here⟩ | deeper
  · -- The mark would be the whole name between its backticks.
    obtain ⟨_, here⟩ := List.cons.inj here
    cases name with
    | nil => cases here
    | cons c rest =>
        obtain ⟨rfl, later⟩ := List.cons.inj here
        cases rest with
        | nil => exact noDot rfl
        | cons d more =>
            obtain ⟨rfl, _⟩ := List.cons.inj later
            exact plain (by simp)
  · exact clear (infix_behind plain deeper)

/-- The name that is read in a word. -/
def nameIn? (word : List Char) : Option (List Char) :=
  (unwrapBackticks (lastNamePart word)).toOption

theorem cut_at_last_behind {mark text before behind : List Char}
    (cut : cutAtLast? mark text = some (before, behind)) (front : List Char) :
    cutAtLast? mark (front ++ text) = some (front ++ before, behind) := by
  induction front with
  | nil => exact cut
  | cons c rest ih => rw [List.cons_append, cutAtLast?, ih, List.cons_append]

theorem name_in_behind (front back : List Char) :
    nameIn? (front ++ '\x60' :: '.' :: '\x60' :: back) = nameIn? ('\x60' :: back) := by
  have same : lastNamePart (front ++ '\x60' :: '.' :: '\x60' :: back) =
      lastNamePart ('\x60' :: back) := by
    -- The last mark stands further behind, or else it is this one.
    cases cut : cutAtLast? ['\x60', '.', '\x60'] ('\x60' :: back) with
    | some parts =>
        have whole := cut_at_last_behind cut (front ++ ['\x60', '.'])
        rw [List.append_assoc] at whole
        rw [lastNamePart, lastNamePart, cut]
        simp only [List.cons_append, List.nil_append] at whole
        rw [whole]
    | none =>
        have here : cutAtLast? ['\x60', '.', '\x60'] ('\x60' :: '.' :: '\x60' :: back) =
            some ([], back) := by
          rw [cutAtLast?, cutAtLast?, cut]
          simp [List.isPrefixOf]
        rw [lastNamePart, lastNamePart, cut, cut_at_last_behind here front]
  rw [nameIn?, nameIn?, same]

theorem unwrap_behind (text : List Char) :
    (unwrapBackticks ('\x60' :: text)).toOption = (cutAt? ['\x60'] text).map Prod.fst := by
  have opening : cutAt? ['\x60'] ('\x60' :: text) = some ([], text) := by
    simp [cutAt?, List.isPrefixOf]
  rw [unwrapBackticks, opening]
  dsimp only
  cases cutAt? ['\x60'] text with
  | none => rfl
  | some parts => rfl

theorem name_in_point (tail : List Char) :
    nameIn? ('\x60' :: '.' :: '\x60' :: tail) = nameIn? ('\x60' :: tail) :=
  name_in_behind [] tail

theorem name_in_unmarked {text : List Char} (clear : Unmarked ('\x60' :: text)) :
    nameIn? ('\x60' :: text) = (cutAt? ['\x60'] text).map Prod.fst := by
  rw [nameIn?, lastNamePart, cut_at_last_none clear, unwrap_behind]

theorem name_in_plain {text : List Char} (plain : '\x60' ∉ text) :
    nameIn? ('\x60' :: text) = none := by
  rw [name_in_unmarked (unmarked_plain plain), cut_at_none plain]
  rfl

theorem name_in_name {name tail : List Char} (plain : '\x60' ∉ name) (noDot : name ≠ ['.'])
    (clear : Unmarked ('\x60' :: tail)) :
    nameIn? ('\x60' :: (name ++ '\x60' :: tail)) = some name := by
  rw [name_in_unmarked (unmarked_name plain noDot clear), cut_at_first plain]
  rfl

/-- A dot between backticks is never the name. -/
theorem name_in_dot {tail : List Char} (clear : Unmarked ('\x60' :: tail)) :
    nameIn? ('\x60' :: '.' :: '\x60' :: tail) ≠ some ['.'] := by
  rw [name_in_point, name_in_unmarked clear]
  intro found
  obtain ⟨parts, cut, dot⟩ := Option.map_eq_some_iff.mp found
  obtain ⟨before, later⟩ := parts
  obtain rfl : before = ['.'] := dot
  rw [cut_at_parts cut] at clear
  exact clear ⟨[], later, rfl⟩

/-! The whole line -/

theorem read_table_name_iff {front : List Char} (more : List Char) (title : String)
    (spaced : front.getLast?.all isBlank = true)
    (unquoted : ∀ word ∈ words front, word.head? ≠ some '\x60') :
    readTableName (front ++ '\x60' :: more) = .ok title ↔
      title ≠ "" ∧ nameIn? (wordAt ('\x60' :: more)) = some title.toList := by
  rw [readTableName, find_quoted_word more spaced unquoted, nameIn?, Outcome.to_option_some_iff]
  dsimp only
  rw [Outcome.bind_ok_iff]
  constructor
  · rintro ⟨name, read, named⟩
    split at named
    · cases named
    · next present =>
      cases named
      exact ⟨by simpa using present, by simpa using read⟩
  · rintro ⟨present, read⟩
    have letters : title.toList.isEmpty = false := by simpa using present
    exact ⟨title.toList, read, by simp [letters]⟩

end SchemaCompiler.Ddl
