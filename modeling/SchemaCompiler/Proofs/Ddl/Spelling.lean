import SchemaCompiler.Proofs.Ddl.Pieces
import SchemaCompiler.Proofs.Ddl.TokenPlaces

/-!
Lines by what their tokens say. A line may be spelled in many ways, with blanks between its tokens
and its words in whatever case, and in each of them its tokens say the same.
-/

namespace SchemaCompiler.Ddl

open Text

/-- What a token says. A word says the same in whatever case. -/
def Token.said (t : Token) : TokenKind × String :=
  (t.kind, if t.kind == .word then lower t.value else t.value)

/-- Whatever is no word says its value. -/
theorem said_other {t : Token} {kind : TokenKind} {value : String} (other : kind ≠ .word)
    (said : t.said = (kind, value)) : t.kind = kind ∧ t.value = value := by
  have same : t.kind = kind := congrArg Prod.fst said
  refine ⟨same, ?_⟩
  simpa [Token.said, same, other] using said

/-- The text is a way to write what tokens say and goes on with the rest. -/
inductive Renders (rest : List Char) : List (TokenKind × String) → List Char → Prop
  | done : Renders rest [] rest
  | blank {said : List (TokenKind × String)} {text : List Char} {c : Char}
      (gap : isBlank c = true) (behind : Renders rest said text) : Renders rest said (c :: text)
  | name {said : List (TokenKind × String)} {text : List Char} (name : List Char)
      (plain : '\x60' ∉ name) (behind : Renders rest said text) :
      Renders rest ((.identifier, String.ofList name) :: said) ('\x60' :: (name ++ '\x60' :: text))
  | word {said : List (TokenKind × String)} {text : List Char} {word : String} {c : Char}
      (more : List Char) (letter : startsWord c = true)
      (letters : more.all continuesName = true)
      (ends : ∀ d, text.head? = some d → continuesName d = false)
      (lowered : lower (String.ofList (c :: more)) = word) (behind : Renders rest said text) :
      Renders rest ((.word, word) :: said) (c :: (more ++ text))
  | number {said : List (TokenKind × String)} {text : List Char} (digits : List Char)
      (present : digits ≠ []) (ascii : AsciiDigits digits) (ends : EndsDigits text)
      (noPoint : text.head? ≠ some '.') (behind : Renders rest said text) :
      Renders rest ((.number, String.ofList digits) :: said) (digits ++ text)
  | mark {said : List (TokenKind × String)} {text : List Char} {c : Char} {kind : TokenKind}
      (mark : (c, kind) ∈ marks) (behind : Renders rest said text) :
      Renders rest ((kind, String.ofList [c]) :: said) (c :: text)

/-- A word ends in front of what cannot go on with it. -/
theorem word_ends {c : Char} (other : continuesName c = false) (rest : List Char) (d : Char)
    (first : (c :: rest).head? = some d) : continuesName d = false := by
  cases first
  exact other

/-- The line is worded so in front and is read to its end. -/
def Worded (line : List Char) (said : List (TokenKind × String)) : Prop :=
  ∃ rest, Renders rest said line ∧ ∃ tokens, tokenize rest = .ok tokens

/-! Reading what is written -/

/-- The text is read as tokens that say so. -/
def Told (text : List Char) (said : List (TokenKind × String)) : Prop :=
  ∃ tokens, tokenize text = .ok tokens ∧ tokens.map Token.said = said

variable {text : List Char} {said : List (TokenKind × String)}

theorem told_behind (told : Told text said) (whole : List Char) (start : Nat) {bound : Nat}
    (enough : text.length ≤ bound) :
    ∃ tokens, tokensFrom whole bound start text = .ok tokens ∧ tokens.map Token.said = said := by
  obtain ⟨tokens, read, rfl⟩ := told
  have moved := tokens_from_moved text whole (Nat.le_refl _) enough 0 start
  rw [← tokenize, read, Nat.zero_add] at moved
  exact ⟨tokens.map (Token.moved start), (Outcome.to_option_some_iff _ _).mp moved, by
    simp [Token.said, Token.moved]⟩

theorem told_blank {c : Char} (gap : isBlank c = true) (told : Told text said) :
    Told (c :: text) said := by
  obtain ⟨tokens, read, same⟩ := told_behind told (c :: text) 1 (Nat.le_refl _)
  refine ⟨tokens, ?_, same⟩
  simp [tokenize, tokensFrom, gap, read]

theorem told_lexeme {c : Char} {front value : List Char} {kind : TokenKind}
    (solid : isBlank c = false)
    (lexeme : firstLexeme? (c :: (front ++ text)) = some ⟨kind, value, front.length + 1⟩)
    (told : Told text said) :
    Told (c :: (front ++ text))
      ((kind, if kind == .word then lower (String.ofList value) else String.ofList value) ::
        said) := by
  have enough : text.length ≤ (front ++ text).length := by simp
  obtain ⟨tokens, read, rfl⟩ := told_behind told (c :: (front ++ text)) (front.length + 1) enough
  have behind : (c :: (front ++ text)).drop (front.length + 1) = text := by simp
  refine ⟨⟨kind, String.ofList value, 0, front.length + 1⟩ :: tokens, ?_, rfl⟩
  rw [List.length_append] at read
  simp [tokenize, tokensFrom, solid, lexeme, read]

theorem mark_solid {c : Char} {kind : TokenKind} (mark : (c, kind) ∈ marks) :
    isBlank c = false ∧ kind ≠ .word := by
  simp only [marks, List.mem_cons, List.not_mem_nil, or_false, Prod.mk.injEq] at mark
  rcases mark with ⟨rfl, rfl⟩ | ⟨rfl, rfl⟩ | ⟨rfl, rfl⟩ | ⟨rfl, rfl⟩ <;> decide

/-- The tokens of a text say what it was written for, one case for each kind of token. -/
theorem renders_told {rest : List Char} (rendered : Renders rest said text)
    {more : List (TokenKind × String)} (told : Told rest more) : Told text (said ++ more) := by
  induction rendered with
  | done => exact told
  | blank gap _ ih => exact told_blank gap ih
  | @name said text name plain _ ih =>
      have lexeme := first_lexeme_name plain text
      have closed : name ++ '\x60' :: text = (name ++ ['\x60']) ++ text := by simp
      have length : name.length + 2 = (name ++ ['\x60']).length + 1 := by simp
      rw [closed, length] at lexeme
      rw [closed]
      exact told_lexeme (by decide) lexeme ih
  | @word said text word c more letter letters ends lowered _ ih =>
      have lexeme := first_lexeme_word letter (List.all_eq_true.mp letters) ends
      have read := told_lexeme (starts_word_plain letter).2 lexeme ih
      rw [lowered] at read
      exact read
  | @number said text digits present ascii ends noPoint _ ih =>
      have lexeme := first_lexeme_number present ascii ends noPoint
      obtain ⟨c, more, rfl⟩ := List.exists_cons_of_ne_nil present
      exact told_lexeme (ascii_digit_solid (ascii c (by simp))) lexeme ih
  | @mark said text c kind mark _ ih =>
      have lexeme : firstLexeme? (c :: ([] ++ text)) =
          some ⟨kind, [c], ([] : List Char).length + 1⟩ := first_lexeme_mark text mark
      have read := told_lexeme (mark_solid mark).1 lexeme ih
      simpa [(mark_solid mark).2] using read

theorem worded_told {line : List Char} (worded : Worded line said) :
    ∃ more, Told line (said ++ more) := by
  obtain ⟨rest, rendered, tokens, read⟩ := worded
  exact ⟨_, renders_told rendered ⟨tokens, read, rfl⟩⟩

end SchemaCompiler.Ddl
