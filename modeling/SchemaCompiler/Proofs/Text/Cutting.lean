import SchemaCompiler.Text.Lines

/-!
Words, cuts and blanks around text. A word holds no blank, and the two parts of a cut with the
mark between them are the text that was cut.
-/

namespace SchemaCompiler.Text

theorem runs_outside_solid (gap : Char → Bool) (word text : List Char)
    (solid : ∀ c ∈ word, gap c = false) :
    ∀ run ∈ runsOutside gap word text, ∀ c ∈ run, gap c = false := by
  induction text generalizing word with
  | nil =>
      intro run member
      rw [runsOutside] at member
      split at member
      · cases member
      · rw [List.mem_singleton] at member
        simpa [member] using solid
  | cons c rest ih =>
      intro run member
      rw [runsOutside] at member
      split at member
      · split at member
        · exact ih [] (by simp) run member
        · rcases List.mem_cons.mp member with same | later
          · simpa [same] using solid
          · exact ih [] (by simp) run later
      · next inside =>
        refine ih (c :: word) ?_ run member
        intro d among
        rcases List.mem_cons.mp among with same | earlier
        · simpa [same] using inside
        · exact solid d earlier

theorem runs_outside_present (gap : Char → Bool) (word text : List Char) :
    ∀ run ∈ runsOutside gap word text, run ≠ [] := by
  induction text generalizing word with
  | nil =>
      rw [runsOutside]
      split
      · simp
      · next present => simpa using present
  | cons c rest ih =>
      rw [runsOutside]
      split
      · split
        · exact ih []
        · next present => exact List.forall_mem_cons.mpr ⟨by simpa using present, ih []⟩
      · exact ih (c :: word)

/-- A text without a gap is one run. -/
theorem runs_outside_whole {gap : Char → Bool} {word text : List Char}
    (solid : ∀ c ∈ text, gap c = false) (present : word.reverse ++ text ≠ []) :
    runsOutside gap word text = [word.reverse ++ text] := by
  induction text generalizing word with
  | nil =>
      rw [List.append_nil] at present ⊢
      rw [runsOutside, if_neg (by simpa using present)]
  | cons c rest ih =>
      have inside : gap c = false := solid c (by simp)
      rw [runsOutside, if_neg (by simp [inside]),
        ih (fun d member => solid d (List.mem_cons_of_mem c member)) (by simp)]
      simp

/-- An ending without a gap stands in the last run. -/
theorem runs_outside_ending {gap : Char → Bool} {ending : List Char}
    (solid : ∀ c ∈ ending, gap c = false) (present : ending ≠ []) (word text : List Char) :
    ∃ runs front, runsOutside gap word (text ++ ending) = runs ++ [front ++ ending] := by
  induction text generalizing word with
  | nil => exact ⟨[], word.reverse, runs_outside_whole solid (by simp [present])⟩
  | cons c rest ih =>
      rw [List.cons_append, runsOutside]
      split
      · obtain ⟨runs, front, cut⟩ := ih []
        split
        · exact ⟨runs, front, cut⟩
        · exact ⟨word.reverse :: runs, front, by rw [cut, List.cons_append]⟩
      · exact ih (c :: word)

theorem runs_outside_gap {gap : Char → Bool} {c : Char} (apart : gap c = true)
    (word front rest : List Char) :
    runsOutside gap word (front ++ c :: rest) =
      runsOutside gap word front ++ runsOutside gap [] rest := by
  induction front generalizing word with
  | nil =>
      cases word with
      | nil => simp [runsOutside, apart]
      | cons d more => simp [runsOutside, apart]
  | cons d more ih =>
      rw [List.cons_append, runsOutside, runsOutside]
      split
      · split
        · exact ih []
        · rw [ih, List.cons_append]
      · exact ih (d :: word)

theorem words_solid {text word : List Char} (member : word ∈ words text) :
    ∀ c ∈ word, isBlank c = false :=
  runs_outside_solid isBlank [] text (by simp) word member

theorem cut_at_parts {mark text front back : List Char}
    (cut : cutAt? mark text = some (front, back)) : text = front ++ mark ++ back := by
  induction text generalizing front with
  | nil =>
      simp only [cutAt?, List.isEmpty_iff] at cut
      split at cut
      · next empty =>
        cases cut
        simp [empty]
      · cases cut
  | cons c rest ih =>
      rw [cutAt?] at cut
      split at cut
      · next here =>
        cases cut
        obtain ⟨behind, whole⟩ := List.isPrefixOf_iff_prefix.mp here
        rw [← whole, List.drop_left]
        rfl
      · obtain ⟨⟨before, behind⟩, deeper, same⟩ := Option.map_eq_some_iff.mp cut
        cases same
        rw [ih deeper]
        rfl

-- The cut deeper in the text comes first here, the one at its front last.
theorem cut_at_last_parts {mark text front back : List Char}
    (cut : cutAtLast? mark text = some (front, back)) : text = front ++ mark ++ back := by
  induction text generalizing front with
  | nil =>
      simp only [cutAtLast?, List.isEmpty_iff] at cut
      split at cut
      · next empty =>
        cases cut
        simp [empty]
      · cases cut
  | cons c rest ih =>
      rw [cutAtLast?] at cut
      split at cut
      · next before behind deeper =>
        cases cut
        rw [ih deeper]
        rfl
      · split at cut
        · next here =>
          cases cut
          obtain ⟨behind, whole⟩ := List.isPrefixOf_iff_prefix.mp here
          rw [← whole, List.drop_left]
          rfl
        · cases cut

/-- What stands before the first occurrence of a character does not hold it. -/
theorem not_mem_cut_front {mark : Char} {text front back : List Char}
    (cut : cutAt? [mark] text = some (front, back)) : mark ∉ front := by
  induction text generalizing front with
  | nil => simp [cutAt?] at cut
  | cons c rest ih =>
      rw [cutAt?] at cut
      split at cut
      · cases cut
        exact List.not_mem_nil
      · next elsewhere =>
        obtain ⟨⟨before, behind⟩, deeper, same⟩ := Option.map_eq_some_iff.mp cut
        cases same
        have apart : mark ≠ c := by
          rintro rfl
          simp at elsewhere
        simp [apart, ih deeper]

theorem cut_at_first {mark : Char} {front : List Char} (absent : mark ∉ front)
    (back : List Char) : cutAt? [mark] (front ++ mark :: back) = some (front, back) := by
  induction front with
  | nil => simp [cutAt?, List.isPrefixOf]
  | cons c rest ih =>
      have tail := ih fun member => absent (List.mem_cons_of_mem c member)
      have other : mark ≠ c := by
        rintro rfl
        exact absent (by simp)
      simp [cutAt?, List.isPrefixOf, other, tail]

theorem cut_at_none {mark : Char} {text : List Char} (absent : mark ∉ text) :
    cutAt? [mark] text = none := by
  induction text with
  | nil => rfl
  | cons c rest ih =>
      have other : mark ≠ c := by
        rintro rfl
        exact absent (by simp)
      simp [cutAt?, List.isPrefixOf, other, ih fun member => absent (List.mem_cons_of_mem c member)]

theorem cut_at_last_none {mark text : List Char} (absent : ¬ mark <:+: text) :
    cutAtLast? mark text = none := by
  induction text with
  | nil =>
      have present : mark ≠ [] := by
        rintro rfl
        exact absent (List.infix_refl [])
      simp [cutAtLast?, present]
  | cons c rest ih =>
      have tail := ih fun deeper => absent (deeper.trans (List.suffix_cons c rest).isInfix)
      have start : mark.isPrefixOf (c :: rest) = false := by
        refine Bool.eq_false_iff.mpr fun here => ?_
        exact absent (List.isPrefixOf_iff_prefix.mp here).isInfix
      simp [cutAtLast?, tail, start]

/-! Lines -/

theorem split_lines_on_break {line : List Char} (unbroken : ∀ c ∈ line, isLineBreak c = false)
    (before rest : List Char) :
    splitLinesOn before (line ++ '\n' :: rest) =
      (before.reverse ++ line) :: splitLinesOn [] rest := by
  induction line generalizing before with
  | nil =>
      rw [List.nil_append, splitLinesOn]
      · simp [isLineBreak]
      · rintro more ⟨⟩
  | cons c more ih =>
      have inside := unbroken c (by simp)
      have tail := ih (fun d member => unbroken d (List.mem_cons_of_mem c member)) (c :: before)
      rw [List.cons_append, splitLinesOn]
      · simpa [inside] using tail
      · rintro later rfl
        exact absurd inside (by decide)

/-- Lines that hold no break are what their text is split into. -/
theorem split_lines_joined {lines : List (List Char)}
    (unbroken : ∀ line ∈ lines, ∀ c ∈ line, isLineBreak c = false) :
    splitLines (lines.flatMap (· ++ ['\n'])) = lines := by
  rw [splitLines]
  induction lines with
  | nil => rfl
  | cons line rest ih =>
      have tail := ih fun other member => unbroken other (List.mem_cons_of_mem line member)
      have head := split_lines_on_break (unbroken line (by simp)) []
        (rest.flatMap (· ++ ['\n']))
      rw [List.flatMap_cons, List.append_assoc, List.singleton_append, head, tail]
      rfl

/-! Blanks around text -/

/-- Text that neither starts nor ends with a blank. -/
def Solid (text : List Char) : Prop :=
  (∀ c, text.head? = some c → isBlank c = false) ∧
    ∀ c, text.getLast? = some c → isBlank c = false

theorem trim_left_solid {text : List Char}
    (front : ∀ c, text.head? = some c → isBlank c = false) : trimLeft text = text := by
  cases text with
  | nil => rfl
  | cons c rest => simp [trimLeft, front c rfl]

theorem trim_solid {text : List Char} (solid : Solid text) : trim text = text := by
  have back : trimLeft text.reverse = text.reverse := by
    apply trim_left_solid
    intro c last
    rw [List.head?_reverse] at last
    exact solid.2 c last
  rw [trim, trim_left_solid solid.1, trimRight]
  rw [trimLeft] at back
  rw [back, List.reverse_reverse]

theorem head_trim_left {text : List Char} {c : Char} (first : (trimLeft text).head? = some c) :
    isBlank c = false := by
  have start := List.head?_dropWhile_not isBlank text
  rw [trimLeft] at first
  rw [first] at start
  exact start

theorem solid_trim (text : List Char) : Solid (trim text) := by
  constructor
  · intro c first
    refine head_trim_left (?_ : (trimLeft text).head? = some c)
    have front : trim text <+: trimLeft text := by
      rw [trim, trimRight, ← List.reverse_suffix, List.reverse_reverse]
      exact List.dropWhile_suffix isBlank
    obtain ⟨back, whole⟩ := front
    rw [← whole, List.head?_append, first]
    rfl
  · intro c last
    rw [trim, trimRight, List.getLast?_reverse] at last
    exact head_trim_left last

end SchemaCompiler.Text
