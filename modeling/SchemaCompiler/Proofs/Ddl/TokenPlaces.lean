import SchemaCompiler.Proofs.Ddl.CapitalTokens

/-!
Where tokens stand. A text has the same tokens wherever it stands, and the tokens of a line stand
in it one behind the other, each in front of the text that it is read from, with nothing but
blanks between them.
-/

namespace SchemaCompiler.Ddl

open Text

/-! Lexemes -/

theorem number_length_positive {text : List Char} {n : Nat} (read : numberLength? text = some n) :
    0 < n := by
  rw [number_length_parts] at read
  split at read
  · cases read
  · next digits =>
    have present := List.length_pos_iff.mpr (mt List.isEmpty_iff.mpr digits)
    cases read
    omega

theorem cut_name_parts {rest name : List Char} (cut : firstLexeme?.cut rest = some name) :
    '\x60' ∉ name ∧ ∃ back, rest = name ++ '\x60' :: back := by
  rw [firstLexeme?.cut] at cut
  split at cut
  · next closed =>
    cases cut
    have plain : '\x60' ∉ rest.takeWhile (· != '\x60') := fun member => by
      simpa using List.mem_takeWhile_imp member
    have parts := List.takeWhile_append_dropWhile (p := (· != '\x60')) (l := rest)
    have stops := List.head?_dropWhile_not (· != '\x60') rest
    refine ⟨plain, ?_⟩
    cases behind : rest.dropWhile (· != '\x60') with
    | nil =>
        rw [behind, List.append_nil] at parts
        rw [parts] at plain
        exact absurd (List.contains_iff_mem.mp closed) plain
    | cons d more =>
        rw [behind] at stops parts
        obtain rfl : d = '\x60' := by simpa using stops
        exact ⟨more, parts.symm⟩
  · cases cut

/-- What a text may be read as, one case for each way to start. -/
inductive Starts (c : Char) (rest : List Char) : Lexeme → Prop
  | identifier {name back : List Char} (tick : c = '\x60') (parts : rest = name ++ '\x60' :: back)
      (plain : '\x60' ∉ name) : Starts c rest ⟨.identifier, name, name.length + 2⟩
  | literal {content : List Char} (quote : c = '\'' ∨ c = '"')
      (closed : literalContent? c rest = some content) :
      Starts c rest ⟨.string, literalValue c content, content.length + 2⟩
  | number {n : Nat} (digits : numberLength? (c :: rest) = some n) :
      Starts c rest ⟨.number, (c :: rest).take n, n⟩
  | word (letter : startsWord c = true) :
      Starts c rest ⟨.word, c :: rest.takeWhile continuesName,
        (rest.takeWhile continuesName).length + 1⟩
  | mark {kind : TokenKind} (single : kind ∈ [TokenKind.opening, .closing, .comma, .symbol]) :
      Starts c rest ⟨kind, [c], 1⟩

theorem first_lexeme_starts {c : Char} {rest : List Char} {found : Lexeme}
    (read : firstLexeme? (c :: rest) = some found) : Starts c rest found := by
  simp only [firstLexeme?] at read
  split at read
  · next tick =>
    cases cut : firstLexeme?.cut rest with
    | none =>
        rw [cut] at read
        cases read
    | some name =>
        rw [cut] at read
        cases read
        obtain ⟨plain, back, parts⟩ := cut_name_parts cut
        exact .identifier (beq_iff_eq.mp tick) parts plain
  · split at read
    · next quote =>
      obtain ⟨content, closed, rfl⟩ := Option.map_eq_some_iff.mp read
      exact .literal (by simpa using quote) closed
    · split at read
      · next n digits =>
        cases read
        exact .number digits
      · split_ifs at read with letter
        · cases read
          exact .word letter
        all_goals
          cases read
          exact .mark (by decide)

theorem first_lexeme_positive {text : List Char} {found : Lexeme}
    (read : firstLexeme? text = some found) : 0 < found.length := by
  cases text with
  | nil => cases read
  | cons c rest =>
      cases first_lexeme_starts read with
      | identifier | literal | word | mark => exact Nat.succ_pos _
      | number digits => exact number_length_positive digits

/-- An identifier stands between its backticks. -/
theorem first_lexeme_identifier {text name : List Char} {length : Nat}
    (read : firstLexeme? text = some ⟨.identifier, name, length⟩) :
    '\x60' ∉ name ∧ length = name.length + 2 ∧
      ∃ back, text = '\x60' :: (name ++ '\x60' :: back) := by
  cases text with
  | nil => cases read
  | cons c rest =>
      cases first_lexeme_starts read with
      | @identifier _ back tick parts plain => exact ⟨plain, rfl, back, by rw [tick, parts]⟩
      | mark single => exact absurd single (by decide)

theorem first_lexeme_symbol {text value : List Char} {length : Nat}
    (read : firstLexeme? text = some ⟨.symbol, value, length⟩) :
    length = 1 ∧ ∃ c back, value = [c] ∧ text = c :: back := by
  cases text with
  | nil => cases read
  | cons c rest =>
      cases first_lexeme_starts read with
      | mark => exact ⟨rfl, c, rest, rfl, rfl⟩

/-! Steps -/

section Steps

variable {c : Char} {rest : List Char}

theorem tokens_from_blank (blank : isBlank c = true) (whole : List Char) (bound start : Nat) :
    tokensFrom whole (bound + 1) start (c :: rest) = tokensFrom whole bound (start + 1) rest := by
  simp [tokensFrom, blank]

theorem tokens_from_lexeme (solid : isBlank c = false) {found : Lexeme}
    (read : firstLexeme? (c :: rest) = some found) (whole : List Char) (bound start : Nat) :
    tokensFrom whole (bound + 1) start (c :: rest) =
      (tokensFrom whole bound (start + found.length) ((c :: rest).drop found.length)).map
        (⟨found.kind, String.ofList found.value, start, start + found.length⟩ :: ·) := by
  simp only [tokensFrom, solid, read, Bool.false_eq_true, if_false]
  cases tokensFrom whole bound (start + found.length) ((c :: rest).drop found.length) with
  | ok tokens => rfl
  | error e => rfl

theorem tokens_from_unclosed (solid : isBlank c = false) (none : firstLexeme? (c :: rest) = none)
    (whole : List Char) (bound start : Nat) :
    tokensFrom whole (bound + 1) start (c :: rest) =
      fail (.unclosedQuote (String.ofList (c :: rest))) whole := by
  simp [tokensFrom, solid, none]

end Steps

/-! Moved texts -/

def Token.moved (distance : Nat) (t : Token) : Token :=
  { t with start := t.start + distance, stop := t.stop + distance }

/-- A text that stands further behind has the same tokens further behind. -/
theorem tokens_from_moved (whole whole' : List Char) {text : List Char} {bound bound' : Nat}
    (enough : text.length ≤ bound) (enough' : text.length ≤ bound') (start distance : Nat) :
    (tokensFrom whole' bound' (start + distance) text).toOption =
      (tokensFrom whole bound start text).toOption.map (List.map (Token.moved distance)) := by
  -- The bounds need not be the same, only large enough for what is left of the text.
  induction bound generalizing bound' start text with
  | zero =>
      obtain rfl := List.eq_nil_of_length_eq_zero (Nat.le_zero.mp enough)
      cases bound' <;> rfl
  | succ bound ih =>
      cases text with
      | nil => cases bound' <;> rfl
      | cons c rest =>
          rw [List.length_cons] at enough enough'
          obtain ⟨less, rfl⟩ : ∃ less, bound' = less + 1 := ⟨bound' - 1, by omega⟩
          cases blank : isBlank c with
          | true =>
              rw [tokens_from_blank blank, tokens_from_blank blank, Nat.add_right_comm]
              exact ih (by omega) (by omega) (start + 1)
          | false =>
              cases read : firstLexeme? (c :: rest) with
              | none =>
                  rw [tokens_from_unclosed blank read, tokens_from_unclosed blank read]
                  rfl
              | some found =>
                  have positive := first_lexeme_positive read
                  have shorter : ((c :: rest).drop found.length).length ≤ rest.length := by
                    rw [List.length_drop, List.length_cons]
                    omega
                  have fits : ((c :: rest).drop found.length).length ≤ less :=
                    Nat.le_trans shorter (by omega)
                  have tail := ih (Nat.le_trans shorter (by omega)) fits (start + found.length)
                  rw [tokens_from_lexeme blank read, tokens_from_lexeme blank read,
                    Outcome.to_option_map, Outcome.to_option_map, Nat.add_right_comm, tail,
                    Option.map_map, Option.map_map]
                  simp [Function.comp_def, Token.moved, Nat.add_right_comm]

/-! Places in a line -/

/-- The tokens that are read from a place in the line on. -/
def ReadFrom (line : List Char) (place : Nat) (tokens : List Token) : Prop :=
  ∃ bound, (line.drop place).length ≤ bound ∧
    tokensFrom line bound place (line.drop place) = .ok tokens

/-- A token behind a place, with what is read behind it. -/
structure Stands (line : List Char) (place : Nat) (t : Token) (others : List Token) : Prop where
  behind : place ≤ t.start
  gap : ∀ c ∈ slice line place t.start, isBlank c = true
  lexeme : firstLexeme? (line.drop t.start) = some ⟨t.kind, t.value.toList, t.stop - t.start⟩
  span : t.start < t.stop
  others : ReadFrom line t.stop others

variable {line : List Char} {place : Nat} {t : Token} {tokens others : List Token}

theorem read_from_start (read : tokenize line = .ok tokens) : ReadFrom line 0 tokens :=
  ⟨line.length, by simp, by simpa [tokenize] using read⟩

theorem slice_first {c : Char} {more : List Char} (here : line.drop place = c :: more) {stop : Nat}
    (beyond : place < stop) : slice line place stop = c :: slice line (place + 1) stop := by
  obtain ⟨n, rfl⟩ : ∃ n, stop = place + n + 1 := ⟨stop - place - 1, by omega⟩
  have tail : line.drop (place + 1) = more := by
    rw [← List.drop_drop, here, List.drop_one, List.tail_cons]
  have one : place + n + 1 - place = n + 1 := by omega
  have less : place + n + 1 - (place + 1) = n := by omega
  rw [slice, slice, here, tail, one, less, List.take_succ_cons]

theorem read_from_cons (read : ReadFrom line place (t :: others)) : Stands line place t others := by
  obtain ⟨bound, enough, read⟩ := read
  -- Each blank is passed by one step, and belongs to the gap in front of the token.
  induction bound generalizing place with
  | zero => cases read
  | succ bound ih =>
      cases here : line.drop place with
      | nil =>
          rw [here] at read
          cases read
      | cons c more =>
          have tail : line.drop (place + 1) = more := by
            rw [← List.drop_drop, here, List.drop_one, List.tail_cons]
          rw [here, List.length_cons] at enough
          rw [here] at read
          cases blank : isBlank c with
          | true =>
              rw [tokens_from_blank blank, ← tail] at read
              have fits : (line.drop (place + 1)).length ≤ bound := by
                rw [tail]
                omega
              have later := ih fits read
              refine ⟨Nat.le_of_succ_le later.behind, ?_, later.lexeme, later.span, later.others⟩
              rw [slice_first here later.behind]
              intro d member
              rcases List.mem_cons.mp member with rfl | further
              · exact blank
              · exact later.gap d further
          | false =>
              cases lexeme : firstLexeme? (c :: more) with
              | none =>
                  rw [tokens_from_unclosed blank lexeme] at read
                  cases read
              | some found =>
                  have positive := first_lexeme_positive lexeme
                  rw [tokens_from_lexeme blank lexeme] at read
                  obtain ⟨rest, behind, same⟩ := (Outcome.map_ok_iff _ _ _).mp read
                  cases same
                  have dropped : (c :: more).drop found.length =
                      line.drop (place + found.length) := by rw [← here, List.drop_drop]
                  refine ⟨Nat.le_refl place, by simp [slice], ?_, ?_, bound, ?_, ?_⟩
                  · rw [here, lexeme]
                    simp
                  · exact Nat.lt_add_of_pos_right positive
                  · rw [← dropped, List.length_drop, List.length_cons]
                    omega
                  · rw [← dropped]
                    exact behind

/-- The tokens behind others are read from some place on. -/
theorem read_from_append {front : List Token} (read : ReadFrom line place (front ++ others)) :
    ∃ further, ReadFrom line further others := by
  induction front generalizing place with
  | nil => exact ⟨place, read⟩
  | cons t rest ih => exact ih (read_from_cons read).others

/-- Where the text goes on without a blank, the next token stands. -/
theorem read_from_solid {c : Char} {more : List Char} (read : ReadFrom line place tokens)
    (here : line.drop place = c :: more) (solid : isBlank c = false) :
    ∃ t others, tokens = t :: others ∧ t.start = place ∧ Stands line place t others := by
  cases tokens with
  | nil =>
      obtain ⟨bound, enough, read⟩ := read
      rw [here] at enough read
      obtain ⟨less, rfl⟩ : ∃ less, bound = less + 1 := ⟨bound - 1, by
        rw [List.length_cons] at enough
        omega⟩
      cases lexeme : firstLexeme? (c :: more) with
      | none =>
          rw [tokens_from_unclosed solid lexeme] at read
          cases read
      | some found =>
          rw [tokens_from_lexeme solid lexeme] at read
          obtain ⟨_, _, same⟩ := (Outcome.map_ok_iff _ _ _).mp read
          cases same
  | cons t others =>
      have stands := read_from_cons read
      refine ⟨t, others, rfl, ?_, stands⟩
      refine Nat.le_antisymm (Nat.le_of_not_lt fun beyond => ?_) stands.behind
      have blank := stands.gap c (by simp [slice_first here beyond])
      rw [solid] at blank
      cases blank

end SchemaCompiler.Ddl
