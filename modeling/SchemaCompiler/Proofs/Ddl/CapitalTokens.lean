import SchemaCompiler.Ddl.Column
import SchemaCompiler.Proofs.Outcome
import SchemaCompiler.Proofs.Text.Capitals

/-!
The tokens of a line in capitals. They have the kinds and the spans of the tokens of the line
itself, and their values in capitals; where one of the two cannot be read, the other cannot either.
-/

namespace SchemaCompiler.Ddl

open Text

/-! Literals -/

theorem literal_content_capitals {quote : Char} (mark : isAsciiLetter quote = false)
    (text : List Char) :
    literalContent? quote (text.map asciiUpperChar) =
      (literalContent? quote text).map (List.map asciiUpperChar) := by
  have same := capital_beq mark
  have backslash := capital_beq (show isAsciiLetter '\\' = false from rfl)
  have kept := mark_capital mark
  fun_induction literalContent? quote text with
  | case1 => rfl
  | case2 c here next more doubled content found ih =>
      rw [found] at ih
      simp [literalContent?, same, here, doubled, ih, kept]
  | case3 c here next more doubled open_ ih =>
      rw [open_] at ih
      simp [literalContent?, same, here, doubled, ih]
  | case4 c here next more single => simp [literalContent?, same, here, single]
  | case5 c here => simp [literalContent?, same, here]
  | case6 c other slash => simp [literalContent?, same, backslash, other, slash]
  | case7 c other slash escaped more ih =>
      simp [literalContent?, same, backslash, other, slash, ih, Function.comp_def]
  | case8 c more other plain ih =>
      rw [List.map_cons, literalContent?.eq_def]
      simp [same, backslash, other, plain, ih, Function.comp_def]

theorem undouble_capitals {quote : Char} (mark : isAsciiLetter quote = false) (text : List Char) :
    undoubleQuotes quote (text.map asciiUpperChar) =
      (undoubleQuotes quote text).map asciiUpperChar := by
  have same := capital_beq mark
  have kept := mark_capital mark
  fun_induction undoubleQuotes quote text with
  | case1 => rfl
  | case2 c => rfl
  | case3 a b rest doubled ih => simp [undoubleQuotes, same, doubled, ih, kept]
  | case4 a b rest single ih => simp [undoubleQuotes, same, single, ← ih]

theorem drop_escapes_capitals (text : List Char) :
    dropEscapes (text.map asciiUpperChar) = (dropEscapes text).map asciiUpperChar := by
  have backslash : asciiUpperChar '\\' = '\\' := rfl
  have feed := capital_beq (show isAsciiLetter '\n' = false from rfl)
  fun_induction dropEscapes text with
  | case1 => rfl
  | case2 c rest here ih => simp [dropEscapes, backslash, feed, here, ih]
  | case3 c rest other ih => simp [dropEscapes, backslash, feed, other, ih]
  | case4 c rest plain ih =>
      rw [List.map_cons, dropEscapes, ih, List.map_cons]
      intro d more start behind
      obtain ⟨e, tail, rfl, -, -⟩ := List.map_eq_cons_iff.mp behind
      exact plain e tail ((capital_eq_iff rfl c).mp start) rfl

theorem literal_value_capitals {quote : Char} (mark : isAsciiLetter quote = false)
    (content : List Char) :
    literalValue quote (content.map asciiUpperChar) =
      (literalValue quote content).map asciiUpperChar := by
  rw [literalValue, undouble_capitals mark, drop_escapes_capitals, literalValue]

/-! Lexemes -/

def signLength (text : List Char) : Nat :=
  if text.head? = some '+' ∨ text.head? = some '-' then 1 else 0

/-- The length of a point and the digits behind it. -/
def fractionLength (behind : List Char) : Nat :=
  let digits := (behind.drop 1).takeWhile isDecimalDigit
  if behind.head? = some '.' ∧ digits ≠ [] then digits.length + 1 else 0

/-- The length of a number is that of its sign, its digits and its fraction. -/
theorem number_length_parts (text : List Char) :
    numberLength? text =
      if ((text.drop (signLength text)).takeWhile isDecimalDigit).isEmpty then none
      else some (signLength text +
        ((text.drop (signLength text)).takeWhile isDecimalDigit).length +
          fractionLength ((text.drop (signLength text)).dropWhile isDecimalDigit)) := by
  rw [numberLength?.eq_def]
  split
  next sign unsigned parts =>
  have same : sign = signLength text ∧ unsigned = text.drop (signLength text) := by
    split at parts
    · cases parts
      simp [signLength]
    · cases parts
      simp [signLength]
    · next plus minus =>
      cases parts
      have none : signLength text = 0 := by
        rw [signLength, if_neg]
        rintro (first | first)
        · obtain ⟨rest, rfl⟩ := List.head?_eq_some_iff.mp first
          exact plus rest rfl
        · obtain ⟨rest, rfl⟩ := List.head?_eq_some_iff.mp first
          exact minus rest rfl
      rw [none]
      exact ⟨rfl, rfl⟩
  obtain ⟨rfl, rfl⟩ := same
  split
  · next rest point =>
    simp only [point, fractionLength, List.head?_cons, List.drop_one, List.tail_cons, true_and]
    cases rest.takeWhile isDecimalDigit with
    | nil => rfl
    | cons c more => rfl
  · next other =>
    have none : fractionLength ((text.drop (signLength text)).dropWhile isDecimalDigit) = 0 := by
      rw [fractionLength, if_neg]
      rintro ⟨first, -⟩
      obtain ⟨rest, point⟩ := List.head?_eq_some_iff.mp first
      exact other rest point
    rw [none]

theorem number_length_capitals (text : List Char) :
    numberLength? (text.map asciiUpperChar) = numberLength? text := by
  have head (d : Char) (other : isAsciiLetter d = false) := head_capitals_iff other
  have sign : signLength (text.map asciiUpperChar) = signLength text := by
    simp only [signLength, head '+' rfl, head '-' rfl]
  have fraction (behind : List Char) :
      fractionLength (behind.map asciiUpperChar) = fractionLength behind := by
    simp only [fractionLength, head '.' rfl, ← List.map_drop,
      take_while_capitals is_decimal_digit_capital, List.length_map, ne_eq, List.map_eq_nil_iff]
  rw [number_length_parts, number_length_parts, sign, ← List.map_drop,
    take_while_capitals is_decimal_digit_capital, drop_while_capitals is_decimal_digit_capital,
    fraction, List.isEmpty_map, List.length_map]

def Lexeme.capitals (found : Lexeme) : Lexeme :=
  { found with value := found.value.map asciiUpperChar }

theorem starts_word_capital (c : Char) : startsWord (asciiUpperChar c) = startsWord c :=
  capital_same startsWord rfl c

theorem continues_name_capital (c : Char) : continuesName (asciiUpperChar c) = continuesName c :=
  capital_same continuesName rfl c

theorem cut_capitals (text : List Char) :
    firstLexeme?.cut (text.map asciiUpperChar) =
      (firstLexeme?.cut text).map (List.map asciiUpperChar) := by
  have mark (c : Char) : (asciiUpperChar c != '\x60') = (c != '\x60') := by
    rw [bne, bne, capital_beq rfl]
  rw [firstLexeme?.cut, contains_capitals rfl, take_while_capitals mark, firstLexeme?.cut]
  split
  · rfl
  · rfl

theorem first_lexeme_capitals (text : List Char) :
    firstLexeme? (text.map asciiUpperChar) = (firstLexeme? text).map Lexeme.capitals := by
  cases text with
  | nil => rfl
  | cons c rest =>
      have length := number_length_capitals (c :: rest)
      rw [List.map_cons] at length ⊢
      have run := take_while_capitals continues_name_capital rest
      have mark (d : Char) (other : isAsciiLetter d = false) := capital_beq other c
      simp only [firstLexeme?, length, starts_word_capital, run, cut_capitals, mark '\x60' rfl,
        mark '\'' rfl, mark '"' rfl, mark '(' rfl, mark ')' rfl, mark ',' rfl]
      split
      · cases firstLexeme?.cut rest with
        | none => rfl
        | some name => simp [Lexeme.capitals]
      · split
        · next quoted =>
          have mark : isAsciiLetter c = false := by
            simp only [Bool.or_eq_true, beq_iff_eq] at quoted
            rcases quoted with rfl | rfl
            · rfl
            · rfl
          rw [mark_capital mark, literal_content_capitals mark]
          cases literalContent? c rest with
          | none => rfl
          | some content => simp [Lexeme.capitals, literal_value_capitals mark]
        · cases numberLength? (c :: rest) with
          | some n => simp [Lexeme.capitals, List.map_take]
          | none =>
              dsimp only
              split
              · simp [Lexeme.capitals]
              · split_ifs
                all_goals rfl

/-! Tokens -/

def Token.capitals (t : Token) : Token :=
  { t with value := String.ofList (t.value.toList.map asciiUpperChar) }

@[simp]
theorem Token.capitals_kind (t : Token) : t.capitals.kind = t.kind := rfl

@[simp]
theorem Token.capitals_start (t : Token) : t.capitals.start = t.start := rfl

@[simp]
theorem Token.capitals_stop (t : Token) : t.capitals.stop = t.stop := rfl

@[simp]
theorem Token.capitals_lower (t : Token) : lower t.capitals.value = lower t.value := by
  simp [lower, Token.capitals]

@[simp]
theorem Token.capitals_is_word (t : Token) (candidates : List String) :
    t.capitals.isWord candidates = t.isWord candidates := by
  simp [Token.isWord]

theorem tokens_from_capitals (whole : List Char) (bound start : Nat) (text : List Char) :
    (tokensFrom (whole.map asciiUpperChar) bound start (text.map asciiUpperChar)).toOption =
      (tokensFrom whole bound start text).toOption.map (List.map Token.capitals) := by
  fun_induction tokensFrom whole bound start text with
  | case1 => rfl
  | case2 => rfl
  | case3 bound start c rest blank ih => simp [tokensFrom, blank, ih]
  | case4 bound start c rest solid open_ =>
      have lexeme := first_lexeme_capitals (c :: rest)
      rw [open_] at lexeme
      rw [List.map_cons] at lexeme ⊢
      simp [tokensFrom, solid, open_, lexeme, fail, Except.toOption]
  | case5 bound start c rest solid found tokens first read ih =>
      have lexeme := first_lexeme_capitals (c :: rest)
      rw [read, List.map_drop] at ih
      have behind := (Outcome.to_option_some_iff _ _).mp ih
      rw [first] at lexeme
      rw [List.map_cons] at lexeme behind ⊢
      simp [tokensFrom, solid, first, read, lexeme, Lexeme.capitals, behind, Except.toOption,
        Token.capitals]
  | case6 bound start c rest solid found e first read ih =>
      have lexeme := first_lexeme_capitals (c :: rest)
      rw [read, List.map_drop] at ih
      obtain ⟨other, behind⟩ := (Outcome.to_option_none_iff _).mp ih
      rw [first] at lexeme
      rw [List.map_cons] at lexeme behind ⊢
      simp [tokensFrom, solid, first, read, lexeme, Lexeme.capitals, behind, Except.toOption]

theorem tokenize_capitals (text : List Char) :
    (tokenize (text.map asciiUpperChar)).toOption =
      (tokenize text).toOption.map (List.map Token.capitals) := by
  rw [tokenize, List.length_map, tokens_from_capitals, tokenize]

theorem tokenize_capitals_ok {text : List Char} {tokens : List Token}
    (read : tokenize text = .ok tokens) :
    tokenize (text.map asciiUpperChar) = .ok (tokens.map Token.capitals) := by
  have same := tokenize_capitals text
  rw [read] at same
  exact (Outcome.to_option_some_iff _ _).mp same

theorem tokenize_capitals_error {text : List Char} {e : ParseError}
    (failed : tokenize text = .error e) :
    ∃ other, tokenize (text.map asciiUpperChar) = .error other := by
  have same := tokenize_capitals text
  rw [failed] at same
  exact (Outcome.to_option_none_iff _).mp same

end SchemaCompiler.Ddl
