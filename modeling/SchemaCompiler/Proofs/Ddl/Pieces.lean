import Mathlib.Data.List.Chain
import SchemaCompiler.Proofs.Ddl.Literals
import SchemaCompiler.Proofs.Text.Digits

/-!
Lines put together from pieces, and the tokens they are read as. Gaps, parentheses and commas
divide a line, and of two pieces side by side one has to be such a divider. Then every other
piece is read back as one token over just its text.
-/

namespace SchemaCompiler.Ddl

open Text

inductive Piece where
  | gap
  | name (text : List Char)
  | literal (text : List Char)
  | number (digits : List Char)
  | word (letters : List Char)
  | opening
  | closing
  | comma
  deriving DecidableEq

/-- Every quote and every backslash is written twice. -/
def escaped : List Char → List Char
  | [] => []
  | c :: rest => if c == '\'' || c == '\\' then c :: c :: escaped rest else c :: escaped rest

namespace Piece

def text : Piece → List Char
  | .gap => [' ']
  | .name text => '\x60' :: (text ++ ['\x60'])
  | .literal text => '\'' :: (escaped text ++ ['\''])
  | .number digits => digits
  | .word letters => letters
  | .opening => ['(']
  | .closing => [')']
  | .comma => [',']

/-- The kind and the value of the token that the piece is read as. -/
def content? : Piece → Option (TokenKind × List Char)
  | .gap => none
  | .name text => some (.identifier, text)
  | .literal text => some (.string, text)
  | .number digits => some (.number, digits)
  | .word letters => some (.word, letters)
  | .opening => some (.opening, ['('])
  | .closing => some (.closing, [')'])
  | .comma => some (.comma, [','])

def divides : Piece → Bool
  | .gap | .opening | .closing | .comma => true
  | _ => false

/-- Names without backticks, digits and letters, and some of them where there must be some. -/
def Sound : Piece → Prop
  | .name text => '\x60' ∉ text
  | .number digits => digits ≠ [] ∧ AsciiDigits digits
  | .word letters => letters ≠ [] ∧ ∀ c ∈ letters, startsWord c = true
  | _ => True

def apart (p q : Piece) : Prop := p.divides = true ∨ q.divides = true

end Piece

def piecesText (pieces : List Piece) : List Char := pieces.flatMap Piece.text

def Fitting (pieces : List Piece) : Prop :=
  (∀ p ∈ pieces, p.Sound) ∧ pieces.IsChain Piece.apart

/-- The tokens of pieces, the first of which starts at the given offset. -/
def tokensAt (start : Nat) : List Piece → List Token
  | [] => []
  | p :: rest =>
    match p.content? with
    | none => tokensAt (start + p.text.length) rest
    | some (kind, value) =>
      ⟨kind, String.ofList value, start, start + p.text.length⟩ ::
        tokensAt (start + p.text.length) rest

@[simp]
theorem pieces_text_nil : piecesText [] = [] := rfl

@[simp]
theorem pieces_text_cons (p : Piece) (rest : List Piece) :
    piecesText (p :: rest) = p.text ++ piecesText rest := rfl

@[simp]
theorem pieces_text_append (front back : List Piece) :
    piecesText (front ++ back) = piecesText front ++ piecesText back := by
  simp [piecesText]

/-- Nothing stands beside a divider too closely. -/
theorem fitting_append {front back : List Piece} (first : Fitting front) (second : Fitting back)
    (divided : ∀ p, back.head? = some p → p.divides = true) : Fitting (front ++ back) := by
  constructor
  · intro p member
    rcases List.mem_append.mp member with before | behind
    · exact first.1 p before
    · exact second.1 p behind
  · refine List.isChain_append.mpr ⟨first.2, second.2, ?_⟩
    intro p _ q start
    exact Or.inr (divided q start)

theorem tokens_at_append (front back : List Piece) (start : Nat) :
    tokensAt start (front ++ back) =
      tokensAt start front ++ tokensAt (start + (piecesText front).length) back := by
  induction front generalizing start with
  | nil => rfl
  | cons p rest ih =>
      rw [List.cons_append, tokensAt, tokensAt]
      have tail := ih (start + p.text.length)
      rw [pieces_text_cons, List.length_append, ← Nat.add_assoc]
      split
      · exact tail
      · rw [tail]
        rfl

/-! Literals -/

theorem escaped_quoted (text : List Char) : Quoted '\'' (escaped text) text := by
  induction text with
  | nil => exact .done
  | cons c text ih =>
      by_cases quote : c = '\''
      · rw [quote]
        exact .doubled ih
      · by_cases slash : c = '\\'
        · rw [slash]
          exact .escaped (by decide) ih
        · have kept : escaped (c :: text) = c :: escaped text := by
            simp [escaped, quote, slash]
          rw [kept]
          exact .plain quote slash ih

/-- The content of an escaped literal goes up to its closing quote, unless another quote stands
right behind it. -/
theorem literal_content_escaped (text rest : List Char) (ends : rest.head? ≠ some '\'') :
    literalContent? '\'' (escaped text ++ '\'' :: rest) = some (escaped text) :=
  literal_content_quoted (by decide) (escaped_quoted text) ends

theorem literal_value_escaped (text : List Char) : literalValue '\'' (escaped text) = text :=
  literal_value_quoted (by decide) (escaped_quoted text)

/-! Single tokens -/

/-- What may stand behind a piece that is no divider. -/
def Divided (rest : List Char) : Prop := ∀ c, rest.head? = some c → c ∈ [' ', '(', ')', ',']

theorem divided_next {rest : List Char} (divided : Divided rest) {c : Char}
    (next : rest.head? = some c) :
    isDecimalDigit c = false ∧ continuesName c = false ∧ c ≠ '.' ∧ c ≠ '\'' := by
  have member := divided c next
  simp only [List.mem_cons, List.not_mem_nil, or_false] at member
  rcases member with rfl | rfl | rfl | rfl <;> decide

theorem starts_word_range {c : Char} (starts : startsWord c = true) :
    65 ≤ c.toNat ∧ c.toNat < 128 ∧ c.toNat ≠ 96 := by
  simp only [startsWord, isAsciiLetter, isAsciiUpper, isAsciiLower, Bool.or_eq_true,
    Bool.and_eq_true, decide_eq_true_eq, beq_iff_eq, Char.le_def, UInt32.le_iff_toNat_le] at starts
  rcases starts with (⟨above, below⟩ | ⟨above, below⟩) | rfl
  · change 65 ≤ c.toNat at above
    change c.toNat ≤ 90 at below
    omega
  · change 97 ≤ c.toNat at above
    change c.toNat ≤ 122 at below
    omega
  · decide

theorem starts_word_plain {c : Char} (starts : startsWord c = true) :
    isDecimalDigit c = false ∧ isBlank c = false := by
  have range := starts_word_range starts
  constructor
  · have small : isAsciiDigit c = false := by
      refine Bool.eq_false_iff.mpr fun digit => ?_
      have := ascii_digit_range digit
      omega
    simp [isDecimalDigit, decimalDigit?, range, small]
  · simp only [isBlank, Bool.or_eq_false_iff, Bool.and_eq_false_iff, decide_eq_false_iff_not,
      beq_eq_false_iff_ne]
    omega

theorem starts_word_continues {c : Char} (starts : startsWord c = true) :
    isWordChar c = true ∧ continuesName c = true := by
  have range := starts_word_range starts
  have inWord : isWordChar c = true := by
    simp only [startsWord, Bool.or_eq_true] at starts
    rcases starts with letter | underscore
    · simp [isWordChar, isAlphanumeric, range, isAsciiAlphanumeric, letter]
    · simp [isWordChar, underscore]
  exact ⟨inWord, by simp [continuesName, inWord]⟩

/-- A text without a sign and without a point behind its digits is a number up to there. -/
theorem number_length_front {text front back : List Char}
    (unsigned : ∀ c, text.head? = some c → c ≠ '+' ∧ c ≠ '-')
    (run : text.takeWhile isDecimalDigit = front) (behind : text.dropWhile isDecimalDigit = back)
    (noPoint : front ≠ [] → back.head? ≠ some '.') :
    numberLength? text = if front.isEmpty then none else some front.length := by
  rw [numberLength?.eq_def]
  split
  next sign whole parts =>
  have same : sign = 0 ∧ whole = text := by
    split at parts
    · exact absurd rfl (unsigned _ rfl).1
    · exact absurd rfl (unsigned _ rfl).2
    · cases parts
      exact ⟨rfl, rfl⟩
  obtain ⟨rfl, rfl⟩ := same
  simp only [run, behind]
  split
  · rfl
  · next present =>
    split
    · exact absurd rfl (noPoint (mt List.isEmpty_iff.mpr present))
    · simp

theorem number_length_digits {digits rest : List Char} (present : digits ≠ [])
    (ascii : AsciiDigits digits) (ends : EndsDigits rest) (noPoint : rest.head? ≠ some '.') :
    numberLength? (digits ++ rest) = some digits.length := by
  obtain ⟨run, behind⟩ := take_decimal ascii ends
  have unsigned : ∀ c, (digits ++ rest).head? = some c → c ≠ '+' ∧ c ≠ '-' := by
    intro c first
    rw [List.head?_append_of_ne_nil _ present] at first
    have digit := ascii_digit_range (ascii c (List.mem_of_head? first))
    constructor
    · rintro rfl
      exact absurd digit (by decide)
    · rintro rfl
      exact absurd digit (by decide)
  rw [number_length_front unsigned run behind fun _ => noPoint]
  simp [present]

theorem number_length_none {c : Char} (rest : List Char) (plus : c ≠ '+') (minus : c ≠ '-')
    (digit : isDecimalDigit c = false) : numberLength? (c :: rest) = none := by
  have front : (c :: rest).takeWhile isDecimalDigit = [] := by simp [digit]
  have back : (c :: rest).dropWhile isDecimalDigit = c :: rest := by simp [digit]
  rw [number_length_front (by simp [plus, minus]) front back fun present => absurd rfl present]
  rfl

theorem first_lexeme_name {text : List Char} (plain : '\x60' ∉ text) (rest : List Char) :
    firstLexeme? ('\x60' :: (text ++ '\x60' :: rest)) =
      some ⟨.identifier, text, text.length + 2⟩ := by
  have inside : ∀ c ∈ text, (c != '\x60') = true := by
    intro c member
    have other : c ≠ '\x60' := by
      rintro rfl
      exact plain member
    simp [other]
  have front : (text ++ '\x60' :: rest).takeWhile (· != '\x60') = text := by
    rw [List.takeWhile_append_of_pos inside]
    simp
  simp [firstLexeme?, firstLexeme?.cut, front]

theorem first_lexeme_number {digits rest : List Char} (present : digits ≠ [])
    (ascii : AsciiDigits digits) (ends : EndsDigits rest) (noPoint : rest.head? ≠ some '.') :
    firstLexeme? (digits ++ rest) = some ⟨.number, digits, digits.length⟩ := by
  have length := number_length_digits present ascii ends noPoint
  obtain ⟨c, more, rfl⟩ := List.exists_cons_of_ne_nil present
  have digit := ascii_digit_range (ascii c (by simp))
  have notQuoted : c ≠ '\x60' ∧ c ≠ '\'' ∧ c ≠ '"' := by
    refine ⟨?_, ?_, ?_⟩
    all_goals
      rintro rfl
      exact absurd digit (by decide)
  rw [List.cons_append] at length ⊢
  simp [firstLexeme?, notQuoted, length]

theorem first_lexeme_word {c : Char} {more rest : List Char} (starts : startsWord c = true)
    (inside : ∀ d ∈ more, continuesName d = true)
    (ends : ∀ d, rest.head? = some d → continuesName d = false) :
    firstLexeme? (c :: (more ++ rest)) = some ⟨.word, c :: more, more.length + 1⟩ := by
  have apart (d : Char) (other : startsWord d = false) : c ≠ d := by
    rintro rfl
    rw [starts] at other
    cases other
  have length := number_length_none (more ++ rest) (apart '+' (by decide)) (apart '-' (by decide))
    (starts_word_plain starts).1
  have tail : (more ++ rest).takeWhile continuesName = more := by
    rw [List.takeWhile_append_of_pos inside]
    cases rest with
    | nil => simp
    | cons d later => simp [ends d rfl]
  simp [firstLexeme?, length, starts, tail, apart '\x60' (by decide), apart '\'' (by decide),
    apart '"' (by decide)]

/-- The characters that are read by themselves. -/
def marks : List (Char × TokenKind) :=
  [('(', .opening), (')', .closing), (',', .comma), ('.', .symbol)]

theorem first_lexeme_mark {c : Char} {kind : TokenKind} (rest : List Char)
    (mark : (c, kind) ∈ marks) : firstLexeme? (c :: rest) = some ⟨kind, [c], 1⟩ := by
  simp only [marks, List.mem_cons, List.not_mem_nil, or_false, Prod.mk.injEq] at mark
  have plain : c ≠ '+' ∧ c ≠ '-' ∧ isDecimalDigit c = false ∧ startsWord c = false := by
    rcases mark with ⟨rfl, rfl⟩ | ⟨rfl, rfl⟩ | ⟨rfl, rfl⟩ | ⟨rfl, rfl⟩ <;> decide
  obtain ⟨plus, minus, digit, letter⟩ := plain
  have none := number_length_none rest plus minus digit
  rcases mark with ⟨rfl, rfl⟩ | ⟨rfl, rfl⟩ | ⟨rfl, rfl⟩ | ⟨rfl, rfl⟩ <;>
    simp [firstLexeme?, none, letter]

/-- A piece is read as one token, whatever stands behind it if it is a divider. -/
theorem first_lexeme_piece {p : Piece} (sound : p.Sound) {rest : List Char}
    (behind : p.divides = true ∨ Divided rest) {kind : TokenKind} {value : List Char}
    (content : p.content? = some (kind, value)) :
    firstLexeme? (p.text ++ rest) = some ⟨kind, value, p.text.length⟩ := by
  have divided : p.divides = false → Divided rest := by
    intro whole
    rcases behind with divides | divided
    · rw [whole] at divides
      cases divides
    · exact divided
  cases p with
  | gap => cases content
  | name text =>
      cases content
      have read := first_lexeme_name sound rest
      simpa [Piece.text] using read
  | literal text =>
      cases content
      have ends : rest.head? ≠ some '\'' :=
        fun next => (divided_next (divided rfl) next).2.2.2 rfl
      have read := literal_content_escaped value rest ends
      simp [Piece.text, firstLexeme?, read, literal_value_escaped]
  | number digits =>
      cases content
      have ends : EndsDigits rest := fun c next => (divided_next (divided rfl) next).1
      have noPoint : rest.head? ≠ some '.' :=
        fun next => (divided_next (divided rfl) next).2.2.1 rfl
      exact first_lexeme_number sound.1 sound.2 ends noPoint
  | word letters =>
      cases content
      obtain ⟨c, more, rfl⟩ := List.exists_cons_of_ne_nil sound.1
      exact first_lexeme_word (sound.2 c (by simp))
        (fun d member => (starts_word_continues (sound.2 d (List.mem_cons_of_mem c member))).2)
        fun d next => (divided_next (divided rfl) next).2.1
  | opening =>
      cases content
      exact first_lexeme_mark rest (by decide)
  | closing =>
      cases content
      exact first_lexeme_mark rest (by decide)
  | comma =>
      cases content
      exact first_lexeme_mark rest (by decide)

/-! Whole lines -/

theorem fitting_tail {p : Piece} {rest : List Piece} (fitting : Fitting (p :: rest)) :
    p.Sound ∧ (p.divides = true ∨ Divided (piecesText rest)) ∧ Fitting rest := by
  obtain ⟨sound, apart⟩ := fitting
  have tail : Fitting rest :=
    ⟨fun q member => sound q (List.mem_cons_of_mem p member), apart.tail⟩
  refine ⟨sound p (by simp), ?_, tail⟩
  cases rest with
  | nil =>
      right
      rintro c ⟨⟩
  | cons q more =>
      rcases (List.isChain_cons_cons.mp apart).1 with divides | divides
      · exact Or.inl divides
      · right
        intro c first
        cases q with
        | gap | opening | closing | comma =>
            cases first
            decide
        | name | literal | number | word => cases divides

theorem piece_starts {p : Piece} (sound : p.Sound) {kind : TokenKind} {value : List Char}
    (content : p.content? = some (kind, value)) :
    ∃ c more, p.text = c :: more ∧ isBlank c = false := by
  cases p with
  | gap => cases content
  | number digits =>
      obtain ⟨c, more, rfl⟩ := List.exists_cons_of_ne_nil sound.1
      exact ⟨c, more, rfl, ascii_digit_solid (sound.2 c (by simp))⟩
  | word letters =>
      obtain ⟨c, more, rfl⟩ := List.exists_cons_of_ne_nil sound.1
      exact ⟨c, more, rfl, (starts_word_plain (sound.2 c (by simp))).2⟩
  | name | literal | opening | closing | comma => exact ⟨_, _, rfl, by decide⟩

/-- Fitting pieces are read back as their tokens, wherever the line starts. -/
theorem tokens_from_pieces (whole : List Char) {pieces : List Piece} (fitting : Fitting pieces)
    (start bound : Nat) (enough : (piecesText pieces).length ≤ bound) :
    tokensFrom whole bound start (piecesText pieces) = .ok (tokensAt start pieces) := by
  induction pieces generalizing start bound with
  | nil => cases bound <;> rfl
  | cons p rest ih =>
      obtain ⟨sound, behind, tail⟩ := fitting_tail fitting
      rw [pieces_text_cons, List.length_append] at enough
      rw [pieces_text_cons, tokensAt]
      cases content : p.content? with
      | none =>
          have gap : p = .gap := by
            cases p <;> first | rfl | cases content
          subst gap
          obtain ⟨more, rfl⟩ : ∃ more, bound = more + 1 := ⟨bound - 1, by
            simp only [Piece.text, List.length_singleton] at enough
            omega⟩
          have read := ih tail (start + 1) more (by
            simp only [Piece.text, List.length_singleton] at enough
            omega)
          exact read
      | some found =>
          obtain ⟨kind, value⟩ := found
          obtain ⟨c, more, text, solid⟩ := piece_starts sound content
          have lexeme := first_lexeme_piece sound behind content
          have positive : 0 < p.text.length := by simp [text]
          obtain ⟨less, rfl⟩ : ∃ less, bound = less + 1 := ⟨bound - 1, by omega⟩
          have read := ih tail (start + p.text.length) less (by omega)
          have left : (p.text ++ piecesText rest).drop p.text.length = piecesText rest := by simp
          rw [text] at lexeme left read ⊢
          rw [List.cons_append] at lexeme left ⊢
          generalize (c :: more).length = length at lexeme left read ⊢
          simp [tokensFrom, solid, lexeme, left, read]

theorem tokenize_pieces {pieces : List Piece} (fitting : Fitting pieces) :
    tokenize (piecesText pieces) = .ok (tokensAt 0 pieces) :=
  tokens_from_pieces _ fitting 0 _ (Nat.le_refl _)

end SchemaCompiler.Ddl
