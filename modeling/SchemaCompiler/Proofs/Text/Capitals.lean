import Mathlib.Data.List.TakeWhile
import SchemaCompiler.Proofs.Text.Lowercase

/-!
Text with its ASCII letters in capitals. No class of characters that a dump is read by tells a
small letter from its capital, lower case is the same for both, and cutting text gives the
capitals of what it gave before.
-/

namespace SchemaCompiler.Text

/-! Characters -/

def smallLetters : List Char := (List.range 26).map fun i => Char.ofNat (97 + i)

theorem small_letter {c : Char} (small : isAsciiLower c = true) : c ∈ smallLetters := by
  have range := ascii_lower_range small
  refine List.mem_map.mpr ⟨c.toNat - 97, List.mem_range.mpr (by omega), ?_⟩
  have code : 97 + (c.toNat - 97) = c.toNat := by omega
  rw [code, Char.ofNat_toNat]

/-- What holds of the small letters and their capitals holds of every character, as the others
are their own capitals. -/
theorem capital_same {β : Type} [DecidableEq β] (f : Char → β)
    (letters : smallLetters.all (fun c => f (asciiUpperChar c) == f c) = true) (c : Char) :
    f (asciiUpperChar c) = f c := by
  by_cases small : isAsciiLower c = true
  · have checked := List.all_eq_true.mp letters c (small_letter small)
    exact beq_iff_eq.mp checked
  · rw [asciiUpperChar, if_neg small]

@[simp]
theorem is_blank_capital (c : Char) : isBlank (asciiUpperChar c) = isBlank c :=
  capital_same isBlank rfl c

@[simp]
theorem is_line_break_capital (c : Char) : isLineBreak (asciiUpperChar c) = isLineBreak c :=
  capital_same isLineBreak rfl c

@[simp]
theorem is_decimal_digit_capital (c : Char) :
    isDecimalDigit (asciiUpperChar c) = isDecimalDigit c :=
  capital_same isDecimalDigit rfl c

@[simp]
theorem is_word_char_capital (c : Char) : isWordChar (asciiUpperChar c) = isWordChar c :=
  capital_same isWordChar rfl c

@[simp]
theorem is_ascii_letter_capital (c : Char) : isAsciiLetter (asciiUpperChar c) = isAsciiLetter c :=
  capital_same isAsciiLetter rfl c

@[simp]
theorem is_ascii_alphanumeric_capital (c : Char) :
    isAsciiAlphanumeric (asciiUpperChar c) = isAsciiAlphanumeric c :=
  capital_same isAsciiAlphanumeric rfl c

theorem capital_not_lower (c : Char) : isAsciiLower (asciiUpperChar c) = false := by
  by_cases small : isAsciiLower c = true
  · have none : smallLetters.all (fun d => !isAsciiLower (asciiUpperChar d)) = true := rfl
    simpa using List.all_eq_true.mp none c (small_letter small)
  · rw [asciiUpperChar, if_neg small]
    exact Bool.eq_false_iff.mpr small

@[simp]
theorem ascii_upper_char_capital (c : Char) :
    asciiUpperChar (asciiUpperChar c) = asciiUpperChar c :=
  capital_same asciiUpperChar rfl c

/-- A mark that is no letter is found in the same places. -/
theorem capital_eq_iff {mark : Char} (other : isAsciiLetter mark = false) (c : Char) :
    asciiUpperChar c = mark ↔ c = mark := by
  constructor
  · intro same
    by_cases small : isAsciiLower c = true
    · have letter : isAsciiLetter c = true := by simp [isAsciiLetter, small]
      rw [← is_ascii_letter_capital, same, other] at letter
      cases letter
    · rw [asciiUpperChar, if_neg small] at same
      exact same
  · rintro rfl
    have small : isAsciiLower c = false := (Bool.or_eq_false_iff.mp other).2
    rw [asciiUpperChar, small]
    rfl

theorem capital_beq {mark : Char} (other : isAsciiLetter mark = false) (c : Char) :
    (asciiUpperChar c == mark) = (c == mark) := by
  rw [Bool.eq_iff_iff, beq_iff_eq, beq_iff_eq, capital_eq_iff other]

theorem mark_capital {mark : Char} (other : isAsciiLetter mark = false) :
    asciiUpperChar mark = mark := (capital_eq_iff other mark).mpr rfl

theorem mem_capitals_iff {mark : Char} (other : isAsciiLetter mark = false) (text : List Char) :
    mark ∈ text.map asciiUpperChar ↔ mark ∈ text := by
  simp [List.mem_map, capital_eq_iff other]

theorem contains_capitals {mark : Char} (other : isAsciiLetter mark = false) (text : List Char) :
    (text.map asciiUpperChar).contains mark = text.contains mark := by
  rw [Bool.eq_iff_iff, List.contains_iff_mem, List.contains_iff_mem, mem_capitals_iff other]

theorem head_capitals_iff {mark : Char} (other : isAsciiLetter mark = false) (text : List Char) :
    (text.map asciiUpperChar).head? = some mark ↔ text.head? = some mark := by
  cases text with
  | nil => rfl
  | cons c rest => simp [capital_eq_iff other]

theorem head_capitals_beq {mark : Char} (other : isAsciiLetter mark = false) (text : List Char) :
    ((text.map asciiUpperChar).head? == some mark) = (text.head? == some mark) := by
  rw [Bool.eq_iff_iff, beq_iff_eq, beq_iff_eq, head_capitals_iff other]

theorem capitals_eq_cons_iff {mark : Char} (other : isAsciiLetter mark = false)
    (text tail : List Char) :
    text.map asciiUpperChar = mark :: tail ↔
      ∃ rest, text = mark :: rest ∧ rest.map asciiUpperChar = tail := by
  simp only [List.map_eq_cons_iff, capital_eq_iff other]
  constructor
  · rintro ⟨_, rest, rfl, rfl, same⟩
    exact ⟨rest, rfl, same⟩
  · rintro ⟨rest, rfl, same⟩
    exact ⟨mark, rest, rfl, rfl, same⟩

/-! Lower case -/

theorem lower_char_capital (c : Char) : lowerChar (asciiUpperChar c) = lowerChar c :=
  capital_same lowerChar rfl c

theorem is_cased_capital (c : Char) : isCased (asciiUpperChar c) = isCased c :=
  capital_same isCased rfl c

theorem is_case_ignorable_capital (c : Char) :
    isCaseIgnorable (asciiUpperChar c) = isCaseIgnorable c :=
  capital_same isCaseIgnorable rfl c

theorem continues_word_capitals (text : List Char) :
    continuesWord (text.map asciiUpperChar) = continuesWord text := by
  induction text with
  | nil => rfl
  | cons c rest ih =>
      simp only [List.map_cons, continuesWord, is_case_ignorable_capital, is_cased_capital, ih]

@[simp]
theorem lower_from_capitals (inWord : Bool) (text : List Char) :
    lowerFrom inWord (text.map asciiUpperChar) = lowerFrom inWord text := by
  induction text generalizing inWord with
  | nil => rfl
  | cons c rest ih =>
      have mark (d : Char) (other : isAsciiLetter d = false) := capital_beq other c
      simp only [List.map_cons, lowerFrom, is_case_ignorable_capital, is_cased_capital,
        continues_word_capitals, lower_char_capital, ih, mark '\u03a3' rfl, mark '\u0130' rfl]

/-! Cuts -/

/-- A class that does not tell capitals from small letters takes the same front of a text. -/
theorem take_while_capitals {p : Char → Bool} (same : ∀ c, p (asciiUpperChar c) = p c)
    (text : List Char) :
    (text.map asciiUpperChar).takeWhile p = (text.takeWhile p).map asciiUpperChar := by
  have composed : p ∘ asciiUpperChar = p := funext same
  rw [List.takeWhile_map, composed]

theorem drop_while_capitals {p : Char → Bool} (same : ∀ c, p (asciiUpperChar c) = p c)
    (text : List Char) :
    (text.map asciiUpperChar).dropWhile p = (text.dropWhile p).map asciiUpperChar := by
  have composed : p ∘ asciiUpperChar = p := funext same
  rw [List.dropWhile_map, composed]

theorem trim_capitals (text : List Char) :
    trim (text.map asciiUpperChar) = (trim text).map asciiUpperChar := by
  simp only [trim, trimLeft, trimRight, drop_while_capitals is_blank_capital, ← List.map_reverse]

def Unlettered (mark : List Char) : Prop := mark.all (fun c => !isAsciiLetter c) = true

theorem unlettered_cons (c : Char) (more : List Char) :
    Unlettered (c :: more) ↔ isAsciiLetter c = false ∧ Unlettered more := by
  simp [Unlettered]

/-- A mark without letters stands in the same places. -/
theorem prefix_capitals {mark : List Char} (other : Unlettered mark) (text : List Char) :
    mark.isPrefixOf (text.map asciiUpperChar) = mark.isPrefixOf text := by
  induction mark generalizing text with
  | nil => rfl
  | cons c more ih =>
      obtain ⟨mark, others⟩ := (unlettered_cons c more).mp other
      cases text with
      | nil => rfl
      | cons d rest =>
          have first : (c == asciiUpperChar d) = (c == d) := by
            rw [BEq.comm, capital_beq mark, BEq.comm]
          rw [List.map_cons, List.isPrefixOf, first, ih others, List.isPrefixOf]

theorem cut_at_capitals {mark : List Char} (other : Unlettered mark) (text : List Char) :
    cutAt? mark (text.map asciiUpperChar) =
      (cutAt? mark text).map (Prod.map (List.map asciiUpperChar) (List.map asciiUpperChar)) := by
  induction text with
  | nil =>
      rw [List.map_nil, cutAt?]
      split
      · rfl
      · rfl
  | cons c rest ih =>
      have here := prefix_capitals other (c :: rest)
      rw [List.map_cons] at here ⊢
      rw [cutAt?, here, ih, cutAt?]
      split
      · simp [List.map_drop]
      · simp only [Option.map_map]
        rfl

theorem cut_at_last_capitals {mark : List Char} (other : Unlettered mark) (text : List Char) :
    cutAtLast? mark (text.map asciiUpperChar) =
      (cutAtLast? mark text).map
        (Prod.map (List.map asciiUpperChar) (List.map asciiUpperChar)) := by
  induction text with
  | nil =>
      rw [List.map_nil, cutAtLast?]
      split
      · rfl
      · rfl
  | cons c rest ih =>
      have here := prefix_capitals other (c :: rest)
      rw [List.map_cons] at here ⊢
      rw [cutAtLast?, here, ih, cutAtLast?]
      cases cutAtLast? mark rest with
      | some parts => rfl
      | none =>
          dsimp only [Option.map_none]
          split
          · simp [List.map_drop]
          · rfl

theorem split_lines_on_capitals (line text : List Char) :
    splitLinesOn (line.map asciiUpperChar) (text.map asciiUpperChar) =
      (splitLinesOn line text).map (List.map asciiUpperChar) := by
  fun_induction splitLinesOn line text with
  | case1 line empty => simp [splitLinesOn, List.isEmpty_iff.mp empty]
  | case2 line present =>
      rw [List.map_nil, splitLinesOn, List.isEmpty_map, if_neg present, List.map_cons,
        List.map_reverse, List.map_nil]
  | case3 line rest ih =>
      have feed : ('\r' :: '\n' :: rest).map asciiUpperChar =
          '\r' :: '\n' :: rest.map asciiUpperChar := rfl
      rw [feed, splitLinesOn, ← List.map_nil, ih]
      simp
  | case4 line c rest single broken ih =>
      rw [List.map_cons, splitLinesOn, is_line_break_capital, if_pos broken, ← List.map_nil, ih]
      · simp
      · intro tail start next
        obtain ⟨more, behind, -⟩ := (capitals_eq_cons_iff rfl rest tail).mp next
        exact single more ((capital_eq_iff rfl c).mp start) behind
  | case5 line c rest single whole ih =>
      rw [List.map_cons, splitLinesOn, is_line_break_capital, if_neg whole, ← List.map_cons, ih]
      intro tail start next
      obtain ⟨more, behind, -⟩ := (capitals_eq_cons_iff rfl rest tail).mp next
      exact single more ((capital_eq_iff rfl c).mp start) behind

theorem split_lines_capitals (text : List Char) :
    splitLines (text.map asciiUpperChar) = (splitLines text).map (List.map asciiUpperChar) :=
  split_lines_on_capitals [] text

/-! Texts that differ in case -/

/-- The texts differ at most in the case of ASCII letters. -/
def Recased (text other : List Char) : Prop := text.map asciiUpperChar = other.map asciiUpperChar

instance (text other : List Char) : Decidable (Recased text other) :=
  inferInstanceAs (Decidable (_ = _))

theorem recased_length {text other : List Char} (recased : Recased text other) :
    text.length = other.length := by
  simpa using congrArg List.length recased

theorem recased_is_empty {text other : List Char} (recased : Recased text other) :
    text.isEmpty = other.isEmpty := by
  rw [← List.isEmpty_map, recased, List.isEmpty_map]

theorem recased_mark {mark : Char} (other : isAsciiLetter mark = false) {rest text : List Char}
    (recased : Recased (mark :: rest) text) :
    ∃ rest', text = mark :: rest' ∧ Recased rest rest' := by
  rw [Recased, List.map_cons, mark_capital other] at recased
  obtain ⟨rest', same, behind⟩ := (capitals_eq_cons_iff other text _).mp recased.symm
  exact ⟨rest', same, behind.symm⟩

/-- The parts of two cuts differ at most in case. -/
def RecasedParts (parts others : List Char × List Char) : Prop :=
  Recased parts.1 others.1 ∧ Recased parts.2 others.2

theorem parts_recased {cut other : Option (List Char × List Char)}
    (same : cut.map (Prod.map (List.map asciiUpperChar) (List.map asciiUpperChar)) =
      other.map (Prod.map (List.map asciiUpperChar) (List.map asciiUpperChar))) :
    Option.Rel RecasedParts cut other := by
  cases cut with
  | none =>
      rw [Option.map_eq_none_iff.mp same.symm]
      exact .none
  | some parts =>
      obtain ⟨others, rfl, equal⟩ := Option.map_eq_some_iff.mp same.symm
      exact .some ⟨(congrArg Prod.fst equal).symm, (congrArg Prod.snd equal).symm⟩

section Cuts

variable {mark text other : List Char}

theorem cut_at_recased (unlettered : Unlettered mark) (recased : Recased text other) :
    Option.Rel RecasedParts (cutAt? mark text) (cutAt? mark other) := by
  apply parts_recased
  rw [← cut_at_capitals unlettered, recased, cut_at_capitals unlettered]

theorem cut_at_last_recased (unlettered : Unlettered mark) (recased : Recased text other) :
    Option.Rel RecasedParts (cutAtLast? mark text) (cutAtLast? mark other) := by
  apply parts_recased
  rw [← cut_at_last_capitals unlettered, recased, cut_at_last_capitals unlettered]

end Cuts

end SchemaCompiler.Text
