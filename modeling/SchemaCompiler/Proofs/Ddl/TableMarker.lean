import SchemaCompiler.Ddl.Reader
import SchemaCompiler.Proofs.Ddl.Pieces
import SchemaCompiler.Proofs.Text.Lowercase

/-!
Which lines hold the two words that open a table. A character that is neither blank nor part of
a word ends every search, so a line of pieces holds them only within a single piece.
-/

namespace SchemaCompiler.Ddl

open Text

/-- Characters that neither of the two words nor what stands between them can hold. -/
def Stop (c : Char) : Prop := isBlank c = false ∧ isWordChar c = false

theorem ascii_upper_char_outside {c : Char} (outside : isWordChar c = false) :
    asciiUpperChar c = c := by
  have small : isAsciiLower c = false := by
    refine Bool.eq_false_iff.mpr fun lower => ?_
    have range := ascii_lower_range lower
    have below : c.toNat < 128 := by omega
    simp [isWordChar, isAlphanumeric, below, isAsciiAlphanumeric, isAsciiLetter, lower] at outside
  simp [asciiUpperChar, small]

-- Either the keyword fits in front of the character, or it would have to hold it.
theorem drop_keyword_stop {keyword : List Char} {c : Char} (outside : asciiUpperChar c ∉ keyword)
    (front back : List Char) :
    dropKeyword? keyword (front ++ c :: back) =
      (dropKeyword? keyword front).map (· ++ c :: back) := by
  by_cases long : keyword.length ≤ front.length
  · have taken : (front ++ c :: back).take keyword.length = front.take keyword.length :=
      List.take_append_of_le_length long
    have left : (front ++ c :: back).drop keyword.length = front.drop keyword.length ++ c :: back :=
      List.drop_append_of_le_length long
    simp only [dropKeyword?, taken, left]
    split
    · rfl
    · rfl
  · have short : (front.take keyword.length).length ≠ keyword.length := by
      rw [List.length_take]
      omega
    have none : dropKeyword? keyword front = none := by
      refine if_neg ?_
      intro both
      exact short (beq_iff_eq.mp (Bool.and_eq_true_iff.mp both).1)
    have other : ((front ++ c :: back).take keyword.length).map asciiUpperChar ≠ keyword := by
      intro same
      apply outside
      rw [← same]
      apply List.mem_map_of_mem
      rw [List.take_append, List.mem_append]
      right
      obtain ⟨more, left⟩ : ∃ more, keyword.length - front.length = more + 1 :=
        ⟨keyword.length - front.length - 1, by omega⟩
      simp [left]
    rw [none]
    refine if_neg ?_
    intro both
    exact other (beq_iff_eq.mp (Bool.and_eq_true_iff.mp both).2)

theorem starts_create_table_stop {c : Char} (stop : Stop c) (front back : List Char) :
    startsCreateTable (front ++ c :: back) = startsCreateTable front := by
  have same := ascii_upper_char_outside stop.2
  have outside (keyword : List Char) (letters : keyword.all isWordChar = true) :
      asciiUpperChar c ∉ keyword := by
    intro member
    have letter := List.all_eq_true.mp letters _ member
    rw [same, stop.2] at letter
    cases letter
  have create := outside "CREATE".toList (by decide)
  have table := outside "TABLE".toList (by decide)
  rw [startsCreateTable, startsCreateTable, drop_keyword_stop create]
  cases dropKeyword? "CREATE".toList front with
  | none => rfl
  | some rest =>
      cases rest with
      | nil => simp [stop.1]
      | cons d more =>
          have gap : (d :: more ++ c :: back).dropWhile isBlank =
              (d :: more).dropWhile isBlank ++ c :: back := by
            rw [List.dropWhile_append]
            split
            · next none => simp [List.isEmpty_iff.mp none, stop.1]
            · rfl
          simp only [Option.map_some, List.cons_append] at gap ⊢
          rw [gap, drop_keyword_stop table]
          cases dropKeyword? "TABLE".toList ((d :: more).dropWhile isBlank) with
          | none => rfl
          | some behind =>
              cases behind with
              | nil => simp [stop.2]
              | cons e later => simp

/-- A search goes on behind a stop as if the text began there. -/
theorem has_create_table_stop {c : Char} (stop : Stop c) (inWord : Bool) (front back : List Char) :
    hasCreateTable inWord (front ++ c :: back) =
      (hasCreateTable inWord front || hasCreateTable false back) := by
  induction front generalizing inWord with
  | nil =>
      have start : startsCreateTable (c :: back) = false := starts_create_table_stop stop [] back
      rw [List.nil_append, hasCreateTable, hasCreateTable, start, stop.2, Bool.and_false]
  | cons d rest ih =>
      have start := starts_create_table_stop stop (d :: rest) back
      rw [List.cons_append] at start ⊢
      rw [hasCreateTable, hasCreateTable, start, ih, Bool.or_assoc]

theorem has_create_table_escaped (inWord : Bool) (front text : List Char) :
    hasCreateTable inWord (front ++ escaped text) = hasCreateTable inWord (front ++ text) := by
  induction text generalizing inWord front with
  | nil => rfl
  | cons c rest ih =>
      rw [escaped]
      split
      · next doubled =>
        -- A doubled character is a stop, and behind it the second copy is one as well.
        have stop : Stop c := by
          simp only [Bool.or_eq_true, beq_iff_eq] at doubled
          rcases doubled with rfl | rfl <;> exact ⟨by decide, by decide⟩
        have twice := has_create_table_stop stop false [] (escaped rest)
        rw [List.nil_append] at twice
        rw [has_create_table_stop stop, has_create_table_stop stop, twice]
        exact congrArg (hasCreateTable inWord front || ·) (ih false [])
      · have tail := ih inWord (front ++ [c])
        simpa using tail

/-! Pieces -/

/-- Names and literals that do not hold the two words, and words that start with other letters. -/
def Piece.Quiet : Piece → Prop
  | .name text | .literal text => hasCreateTable false text = false
  | .word letters => 2 ≤ letters.length ∧ (letters.take 2).map asciiUpperChar ≠ ['C', 'R']
  | _ => True

theorem starts_create_table_initial {c : Char} (other : asciiUpperChar c ≠ 'C')
    (rest : List Char) : startsCreateTable (c :: rest) = false := by
  have none : dropKeyword? "CREATE".toList (c :: rest) = none := by
    refine if_neg ?_
    intro both
    have same := beq_iff_eq.mp (Bool.and_eq_true_iff.mp both).2
    exact other (List.cons.inj same).1
  rw [startsCreateTable, none]

theorem starts_create_table_word {letters : List Char} (quiet : (Piece.word letters).Quiet)
    (rest : List Char) : startsCreateTable (letters ++ rest) = false := by
  have none : dropKeyword? "CREATE".toList (letters ++ rest) = none := by
    refine if_neg ?_
    intro both
    have same := congrArg (List.take 2) (beq_iff_eq.mp (Bool.and_eq_true_iff.mp both).2)
    rw [← List.map_take, List.take_take] at same
    have front : (letters ++ rest).take 2 = letters.take 2 := List.take_append_of_le_length quiet.1
    apply quiet.2
    rw [← front]
    exact same
  rw [startsCreateTable, none]

theorem digit_in_word {c : Char} (digit : isAsciiDigit c = true) : isWordChar c = true := by
  have range := ascii_digit_range digit
  have below : c.toNat < 128 := by omega
  simp [isWordChar, isAlphanumeric, below, isAsciiAlphanumeric, digit]

theorem digit_not_initial {c : Char} (digit : isAsciiDigit c = true) : asciiUpperChar c ≠ 'C' := by
  have range := ascii_digit_range digit
  have small : isAsciiLower c = false := by
    refine Bool.eq_false_iff.mpr fun lower => ?_
    have letters := ascii_lower_range lower
    omega
  rw [asciiUpperChar, small]
  rintro rfl
  exact absurd range (by decide)

theorem has_create_table_run {run : List Char} (inside : ∀ c ∈ run, isWordChar c = true)
    (rest : List Char) : hasCreateTable true (run ++ rest) = hasCreateTable true rest := by
  induction run with
  | nil => rfl
  | cons c more ih =>
      have tail := ih fun d member => inside d (List.mem_cons_of_mem c member)
      rw [List.cons_append, hasCreateTable, inside c (by simp), tail]
      rfl

theorem has_create_table_divided {rest : List Char} (divided : Divided rest) (inWord : Bool) :
    hasCreateTable inWord rest = hasCreateTable false rest := by
  cases rest with
  | nil => rfl
  | cons c more =>
      have member := divided c rfl
      have other : asciiUpperChar c ≠ 'C' := by
        simp only [List.mem_cons, List.not_mem_nil, or_false] at member
        rcases member with rfl | rfl | rfl | rfl <;> decide
      simp [hasCreateTable, starts_create_table_initial other]

/-- A word or a number does not hold the two words, and the search goes on behind it. -/
theorem has_create_table_letters {letters rest : List Char} (present : letters ≠ [])
    (inside : ∀ c ∈ letters, isWordChar c = true)
    (start : startsCreateTable (letters ++ rest) = false) (divided : Divided rest) :
    hasCreateTable false (letters ++ rest) = hasCreateTable false rest := by
  obtain ⟨c, more, rfl⟩ := List.exists_cons_of_ne_nil present
  rw [List.cons_append] at start ⊢
  rw [hasCreateTable, start, inside c (by simp),
    has_create_table_run (fun d member => inside d (List.mem_cons_of_mem c member)),
    has_create_table_divided divided]
  rfl

theorem has_create_table_piece {p : Piece} (sound : p.Sound) (quiet : p.Quiet) {rest : List Char}
    (behind : p.divides = true ∨ Divided rest) :
    hasCreateTable false (p.text ++ rest) = hasCreateTable false rest := by
  cases p with
  | name text =>
      have first := has_create_table_stop (c := '\x60') ⟨by decide, by decide⟩ false []
        (text ++ '\x60' :: rest)
      have second := has_create_table_stop (c := '\x60') ⟨by decide, by decide⟩ false text rest
      rw [second, show hasCreateTable false text = false from quiet] at first
      simpa [Piece.text, hasCreateTable] using first
  | literal text =>
      have first := has_create_table_stop (c := '\'') ⟨by decide, by decide⟩ false []
        (escaped text ++ '\'' :: rest)
      have second := has_create_table_stop (c := '\'') ⟨by decide, by decide⟩ false
        (escaped text) rest
      have inside := has_create_table_escaped false [] text
      rw [List.nil_append, List.nil_append, show hasCreateTable false text = false from quiet]
        at inside
      rw [second, inside] at first
      simpa [Piece.text, hasCreateTable] using first
  | number digits =>
      have divided : Divided rest := by simpa [Piece.divides] using behind
      obtain ⟨c, more, rfl⟩ := List.exists_cons_of_ne_nil sound.1
      refine has_create_table_letters sound.1 ?_ ?_ divided
      · intro d member
        exact digit_in_word (sound.2 d member)
      · exact starts_create_table_initial (digit_not_initial (sound.2 c (by simp))) _
  | word letters =>
      have divided : Divided rest := by simpa [Piece.divides] using behind
      exact has_create_table_letters sound.1
        (fun c member => (starts_word_continues (sound.2 c member)).1)
        (starts_create_table_word quiet rest) divided
  | gap | opening | closing | comma =>
      simp [Piece.text, hasCreateTable, starts_create_table_initial, asciiUpperChar, isAsciiLower,
        isWordChar, isAlphanumeric, isAsciiAlphanumeric, isAsciiLetter, isAsciiUpper, isAsciiDigit]

/-- A line of quiet pieces opens no table. -/
theorem has_create_table_pieces {pieces : List Piece} (fitting : Fitting pieces)
    (quiet : ∀ p ∈ pieces, p.Quiet) : hasCreateTable false (piecesText pieces) = false := by
  induction pieces with
  | nil => rfl
  | cons p rest ih =>
      obtain ⟨sound, behind, tail⟩ := fitting_tail fitting
      rw [pieces_text_cons, has_create_table_piece sound (quiet p (by simp)) behind]
      exact ih tail fun q member => quiet q (List.mem_cons_of_mem p member)

end SchemaCompiler.Ddl
