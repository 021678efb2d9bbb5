import SchemaCompiler.Proofs.Ddl.Spelling
import SchemaCompiler.Proofs.Ddl.TokenKinds

/-!
The tokens of a text tile it. Their spans stand in it one behind the other with nothing but blanks
between them, and each is the text of a token of its kind. Reading fails exactly where such a
tiling comes to a quote that is not closed, whichever tiling it is.
-/

namespace SchemaCompiler.Ddl

open Text

/-- Tokens whose spans stand one behind the other between two places of a text. Every span is the
text of its token, and what no span covers is blank. -/
structure Tiling (text : List Char) (first stop : Nat) (tokens : List Token) : Prop where
  inside : first ≤ stop ∧ stop ≤ text.length
  spans : ∀ t ∈ tokens, first ≤ t.start ∧ t.start < t.stop ∧ t.stop ≤ stop
  ordered : tokens.Pairwise fun a b => a.stop ≤ b.start
  gaps : ∀ place c, first ≤ place → place < stop → text[place]? = some c →
    (∀ t ∈ tokens, ¬ (t.start ≤ place ∧ place < t.stop)) → isBlank c = true
  tiles : ∀ t ∈ tokens, Tile (text.drop t.start) t.kind t.value.toList (slice text t.start t.stop)

/-! Parts of tilings -/

section Parts

variable {text : List Char} {first stop : Nat} {t : Token} {rest tokens : List Token}

theorem tiling_nil (inside : stop ≤ text.length) : Tiling text stop stop [] :=
  ⟨⟨Nat.le_refl stop, inside⟩, by simp, .nil, fun _ _ low high => absurd high (Nat.not_lt.mpr low),
    by simp⟩

/-- A blank in front of a tiling. -/
theorem tiling_blank {c : Char} (here : text[first]? = some c) (blank : isBlank c = true)
    (behind : Tiling text (first + 1) stop tokens) : Tiling text first stop tokens := by
  refine ⟨⟨Nat.le_of_succ_le behind.inside.1, behind.inside.2⟩, ?_, behind.ordered, ?_,
    behind.tiles⟩
  · intro t member
    obtain ⟨low, span⟩ := behind.spans t member
    exact ⟨Nat.le_of_succ_le low, span⟩
  · intro place d low high there free
    rcases Nat.lt_or_eq_of_le low with beyond | rfl
    · exact behind.gaps place d beyond high there free
    · rw [here] at there
      cases there
      exact blank

/-- A token in front of a tiling. -/
theorem tiling_cons (span : t.start < t.stop)
    (tile : Tile (text.drop t.start) t.kind t.value.toList (slice text t.start t.stop))
    (behind : Tiling text t.stop stop rest) : Tiling text t.start stop (t :: rest) := by
  have low : t.start ≤ stop := Nat.le_trans (Nat.le_of_lt span) behind.inside.1
  refine ⟨⟨low, behind.inside.2⟩, ?_, ?_, ?_, ?_⟩
  · intro other member
    rcases List.mem_cons.mp member with rfl | later
    · exact ⟨Nat.le_refl _, span, behind.inside.1⟩
    · obtain ⟨after, proper⟩ := behind.spans other later
      exact ⟨by omega, proper⟩
  · exact List.pairwise_cons.mpr ⟨fun other later => (behind.spans other later).1, behind.ordered⟩
  · intro place c low high there free
    -- What the first token does not cover lies behind it.
    have beyond : t.stop ≤ place := by
      have uncovered := free t (by simp)
      omega
    exact behind.gaps place c beyond high there fun other later =>
      free other (List.mem_cons_of_mem t later)
  · intro other member
    rcases List.mem_cons.mp member with rfl | later
    · exact tile
    · exact behind.tiles other later

/-- The tokens behind the first one tile what is behind it. -/
theorem tiling_tail (tiling : Tiling text first stop (t :: rest)) :
    Tiling text t.stop stop rest := by
  obtain ⟨after, ordered⟩ := List.pairwise_cons.mp tiling.ordered
  obtain ⟨low, span, high⟩ := tiling.spans t (by simp)
  refine ⟨⟨high, tiling.inside.2⟩, ?_, ordered, ?_, ?_⟩
  · intro other later
    exact ⟨after other later, (tiling.spans other (List.mem_cons_of_mem t later)).2⟩
  · intro place c beyond inside there free
    apply tiling.gaps place c (by omega) inside there
    intro other member
    rcases List.mem_cons.mp member with rfl | later
    · omega
    · exact free other later
  · exact fun other later => tiling.tiles other (List.mem_cons_of_mem t later)

/-- What is in front of the first token is blank. -/
theorem tiling_gap (tiling : Tiling text first stop (t :: rest)) {place : Nat} {c : Char}
    (low : first ≤ place) (before : place < t.start) (there : text[place]? = some c) :
    isBlank c = true := by
  obtain ⟨_, span, high⟩ := tiling.spans t (by simp)
  apply tiling.gaps place c low (by omega) there
  intro other member
  rcases List.mem_cons.mp member with rfl | later
  · omega
  · have beyond := (List.pairwise_cons.mp tiling.ordered).1 other later
    omega

end Parts

/-! Reading gives tilings -/

/-- What reading from a place on comes to: a tiling of all that is behind it, or one that ends in
front of a quote that is not closed. -/
def Scanned (text : List Char) (place : Nat) : Except ParseError (List Token) → Prop
  | .ok tokens => Tiling text place text.length tokens
  | .error _ => ∃ stop tokens, Tiling text place stop tokens ∧ Unclosed (text.drop stop)

section Scans

variable {text : List Char} {place : Nat}

theorem scanned_end (inside : place ≤ text.length) (none : text.drop place = []) :
    Scanned text place (.ok []) := by
  have last : place = text.length := Nat.le_antisymm inside (List.drop_eq_nil_iff.mp none)
  rw [last]
  exact tiling_nil (Nat.le_refl _)

theorem scanned_blank {c : Char} (here : text[place]? = some c) (blank : isBlank c = true)
    {outcome : Except ParseError (List Token)} (behind : Scanned text (place + 1) outcome) :
    Scanned text place outcome := by
  cases outcome with
  | ok tokens => exact tiling_blank here blank behind
  | error e =>
      obtain ⟨stop, tokens, tiling, unclosed⟩ := behind
      exact ⟨stop, tokens, tiling_blank here blank tiling, unclosed⟩

theorem scanned_token {t : Token} (span : t.start < t.stop)
    (tile : Tile (text.drop t.start) t.kind t.value.toList (slice text t.start t.stop))
    {outcome : Except ParseError (List Token)} (behind : Scanned text t.stop outcome) :
    Scanned text t.start (outcome.map (t :: ·)) := by
  cases outcome with
  | ok tokens => exact tiling_cons span tile behind
  | error e =>
      obtain ⟨stop, tokens, tiling, unclosed⟩ := behind
      exact ⟨stop, t :: tokens, tiling_cons span tile tiling, unclosed⟩

theorem scanned_lexeme {c : Char} {rest : List Char} (here : text.drop place = c :: rest)
    (solid : isBlank c = false) {found : Lexeme} (read : firstLexeme? (c :: rest) = some found)
    {outcome : Except ParseError (List Token)}
    (behind : Scanned text (place + found.length) outcome) :
    Scanned text place (outcome.map
      (⟨found.kind, String.ofList found.value, place, place + found.length⟩ :: ·)) := by
  have taken : slice text place (place + found.length) = (c :: rest).take found.length := by
    rw [slice, here, Nat.add_sub_cancel_left]
  have tile := (first_lexeme_tiles solid read).1
  rw [← taken, ← here] at tile
  let t : Token := ⟨found.kind, String.ofList found.value, place, place + found.length⟩
  have read_as : Tile (text.drop t.start) t.kind t.value.toList (slice text t.start t.stop) := by
    rw [String.toList_ofList]
    exact tile
  have span : t.start < t.stop := Nat.lt_add_of_pos_right (first_lexeme_positive read)
  exact scanned_token span read_as behind

/-- Each step passes a blank, reads a token or meets a quote that is not closed. -/
theorem scanned_tokens {bound : Nat} (inside : place ≤ text.length)
    (enough : (text.drop place).length ≤ bound) :
    Scanned text place (tokensFrom text bound place (text.drop place)) := by
  induction bound generalizing place with
  | zero =>
      exact scanned_end inside (List.eq_nil_of_length_eq_zero (Nat.le_zero.mp enough))
  | succ bound ih =>
      cases here : text.drop place with
      | nil => exact scanned_end inside here
      | cons c rest =>
          have there : text[place]? = some c := by
            rw [← List.head?_drop, here]
            rfl
          have behind (n : Nat) : text.drop (place + n) = (c :: rest).drop n := by
            rw [← List.drop_drop, here]
          have length : place + (c :: rest).length = text.length := by
            rw [← here, List.length_drop]
            omega
          rw [here, List.length_cons] at enough
          rw [List.length_cons] at length
          cases blank : isBlank c with
          | true =>
              have later := @ih (place + 1) (by omega) (by rw [behind]; simpa using enough)
              rw [tokens_from_blank blank]
              rw [behind] at later
              exact scanned_blank there blank later
          | false =>
              cases read : firstLexeme? (c :: rest) with
              | none =>
                  rw [tokens_from_unclosed blank read]
                  refine ⟨place, [], tiling_nil inside, ?_⟩
                  rw [here]
                  exact (first_lexeme_none_iff blank rest).mp read
              | some found =>
                  have positive := first_lexeme_positive read
                  have short := (first_lexeme_tiles blank read).2
                  rw [List.length_cons] at short
                  have later := @ih (place + found.length) (by omega)
                    (by rw [behind, List.length_drop, List.length_cons]; omega)
                  rw [tokens_from_lexeme blank read]
                  rw [behind] at later
                  exact scanned_lexeme here blank read later

end Scans

/-! Tiles are read -/

theorem first_lexeme_longest_number {run rest : List Char}
    (longest : Longest Number (run ++ rest) run) :
    firstLexeme? (run ++ rest) = some ⟨.number, run, run.length⟩ := by
  obtain ⟨n, read, _⟩ := number_reaches longest.fits (List.prefix_append run rest)
  have same := longest_unique (number_longest read) longest
  have length : n = run.length := by
    rw [← same, List.length_take_of_le (number_taken read).2]
  obtain ⟨c, more, rfl, _, tick, noQuote⟩ := number_first longest.fits
  rw [List.cons_append] at read same ⊢
  rw [first_lexeme_plain tick noQuote, read]
  dsimp only
  rw [same, length]

theorem first_lexeme_longest_word {run rest : List Char}
    (longest : Longest Word (run ++ rest) run) :
    firstLexeme? (run ++ rest) = some ⟨.word, run, run.length⟩ := by
  cases longest.fits with
  | @letters c more letter others =>
      have inside := List.all_eq_true.mp others
      have whole : more = (more ++ rest).takeWhile continuesName :=
        List.tail_eq_of_cons_eq (longest_unique longest (word_longest letter (more ++ rest)))
      rw [List.takeWhile_append_of_pos inside, List.self_eq_append_right] at whole
      -- A word that is the longest one has nothing behind it that could go on with it.
      have ends : ∀ d, rest.head? = some d → continuesName d = false := by
        intro d first
        obtain ⟨later, rfl⟩ := List.head?_eq_some_iff.mp first
        refine Bool.eq_false_iff.mpr fun goesOn => ?_
        rw [List.takeWhile_cons_of_pos goesOn] at whole
        cases whole
      exact first_lexeme_word letter inside ends

theorem first_lexeme_other {c : Char} {rest : List Char} (other : Symbol (c :: rest) c) :
    firstLexeme? (c :: rest) = some ⟨.symbol, [c], 1⟩ := by
  obtain ⟨opening, closing, comma, tick, single, double⟩ : c ≠ '(' ∧ c ≠ ')' ∧ c ≠ ',' ∧
      c ≠ '\x60' ∧ c ≠ '\'' ∧ c ≠ '"' := by simpa using other.unmarked
  have none : numberLength? (c :: rest) = none := by
    refine Option.eq_none_iff_forall_ne_some.mpr fun n read => ?_
    exact other.number _ (number_taken read).1 (List.take_prefix n _)
  rw [first_lexeme_plain tick (not_or.mpr ⟨single, double⟩), none]
  simp [other.letter, opening, closing, comma]

/-- What is read in front of a tile is the tile, when it is no literal. -/
theorem first_lexeme_tile {kind : TokenKind} {value span rest : List Char}
    (tile : Tile (span ++ rest) kind value span) (plain : kind ≠ .string) :
    firstLexeme? (span ++ rest) = some ⟨kind, value, span.length⟩ := by
  cases tile with
  | @identifier name closed =>
      have read := first_lexeme_name closed rest
      simpa using read
  | string => exact absurd rfl plain
  | number longest => exact first_lexeme_longest_number longest
  | word longest => exact first_lexeme_longest_word longest
  | opening => exact first_lexeme_mark rest (by decide)
  | closing => exact first_lexeme_mark rest (by decide)
  | comma => exact first_lexeme_mark rest (by decide)
  | symbol other => exact first_lexeme_other other

theorem tile_first {kind : TokenKind} {text value span : List Char}
    (tile : Tile text kind value span) : ∃ c more, span = c :: more ∧ isBlank c = false := by
  cases tile with
  | identifier => exact ⟨'\x60', _, rfl, by decide⟩
  | string literal =>
      cases literal with
      | between mark => exact ⟨_, _, rfl, (quote_other mark).2.2⟩
  | number longest =>
      obtain ⟨c, more, rfl, solid, _⟩ := number_first longest.fits
      exact ⟨c, more, rfl, solid⟩
  | word longest =>
      cases longest.fits with
      | letters letter => exact ⟨_, _, rfl, (starts_word_plain letter).2⟩
  | opening => exact ⟨'(', [], rfl, by decide⟩
  | closing => exact ⟨')', [], rfl, by decide⟩
  | comma => exact ⟨',', [], rfl, by decide⟩
  | symbol other => exact ⟨_, [], rfl, other.solid⟩

/-! Tilings are read -/

def Tokenizes (text : List Char) : Prop := ∃ tokens, tokenize text = .ok tokens

/-- Whether a text is read does not depend on where it stands. -/
theorem tokenizes_iff (whole : List Char) {text : List Char} {bound : Nat}
    (enough : text.length ≤ bound) (start : Nat) :
    Tokenizes text ↔ (tokensFrom whole bound start text).toOption.isSome = true := by
  have moved := tokens_from_moved text whole (Nat.le_refl _) enough 0 start
  rw [Nat.zero_add, ← tokenize] at moved
  rw [moved, Option.isSome_map]
  cases read : tokenize text with
  | ok tokens => simp [Tokenizes, read, Except.toOption]
  | error e => simp [Tokenizes, read, Except.toOption]

theorem tokenizes_blank {c : Char} (blank : isBlank c = true) (rest : List Char) :
    Tokenizes (c :: rest) ↔ Tokenizes rest := by
  rw [tokenizes_iff (c :: rest) (Nat.le_refl _) 0, List.length_cons, tokens_from_blank blank,
    ← tokenizes_iff (c :: rest) (Nat.le_refl _)]

theorem tokenizes_lexeme {c : Char} {rest : List Char} (solid : isBlank c = false) {found : Lexeme}
    (read : firstLexeme? (c :: rest) = some found) :
    Tokenizes (c :: rest) ↔ Tokenizes ((c :: rest).drop found.length) := by
  have positive := first_lexeme_positive read
  have enough : ((c :: rest).drop found.length).length ≤ rest.length := by
    rw [List.length_drop, List.length_cons]
    omega
  rw [tokenizes_iff (c :: rest) (Nat.le_refl _) 0,
    tokenizes_iff (c :: rest) enough (0 + found.length), List.length_cons,
    tokens_from_lexeme solid read, Outcome.to_option_map, Option.isSome_map]

theorem not_tokenizes_unclosed {c : Char} {rest : List Char} (solid : isBlank c = false)
    (unclosed : Unclosed (c :: rest)) : ¬ Tokenizes (c :: rest) := by
  have none := (first_lexeme_none_iff solid rest).mpr unclosed
  rw [tokenizes_iff (c :: rest) (Nat.le_refl _) 0, List.length_cons,
    tokens_from_unclosed solid none]
  simp [fail, Except.toOption]

/-- A literal may be left at any quote that closes it: if it goes on from there, so does the
literal that starts at the second half of the doubled quote, up to the same place. -/
theorem tokenizes_literal {written value : List Char} (literal : Literal written value)
    (rest : List Char) : Tokenizes (written ++ rest) ↔ Tokenizes rest := by
  cases literal with
  | @between quote content value mark quoted =>
      obtain ⟨noSlash, _, solid⟩ := quote_other mark
      have closed : quote :: (content ++ [quote]) ++ rest =
          quote :: (content ++ quote :: rest) := by simp
      have left : (quote :: (content ++ quote :: rest)).drop (content.length + 2) = rest := by
        rw [List.drop_succ_cons, List.drop_length_add_append]
        rfl
      rw [closed]
      rcases literal_content_cases noSlash quoted rest with same | ⟨inner, more, rfl, behind, same⟩
      -- The literal that is read is the tile, or it takes in what the tile would leave to be read.
      · have lexeme := first_lexeme_quote mark (content ++ quote :: rest)
        rw [same] at lexeme
        rw [tokenizes_lexeme solid lexeme, left]
      · have lexeme := first_lexeme_quote mark (content ++ quote :: quote :: more)
        rw [same] at lexeme
        have later := first_lexeme_quote mark more
        rw [behind] at later
        have length : (content ++ quote :: quote :: inner).length + 2 =
            content.length + 2 + (inner.length + 2) := by
          simp
          omega
        rw [tokenizes_lexeme solid lexeme, tokenizes_lexeme solid later]
        dsimp only
        rw [length, ← List.drop_drop, left]

/-- A text is read just if it is read behind a tile. -/
theorem tokenizes_tile {kind : TokenKind} {value span rest : List Char}
    (tile : Tile (span ++ rest) kind value span) : Tokenizes (span ++ rest) ↔ Tokenizes rest := by
  by_cases plain : kind = .string
  · subst plain
    cases tile with
    | string literal => exact tokenizes_literal literal rest
  · have read := first_lexeme_tile tile plain
    obtain ⟨c, more, rfl, solid⟩ := tile_first tile
    rw [List.cons_append] at read ⊢
    rw [tokenizes_lexeme solid read]
    simp

theorem tokenizes_gap {text : List Char} {first stop : Nat} (ordered : first ≤ stop)
    (inside : stop ≤ text.length)
    (gap : ∀ place c, first ≤ place → place < stop → text[place]? = some c → isBlank c = true) :
    Tokenizes (text.drop first) ↔ Tokenizes (text.drop stop) := by
  induction stop, ordered using Nat.le_induction with
  | base => rfl
  | succ stop low ih =>
      rw [ih (by omega) fun place c after before => gap place c after (by omega)]
      have here := List.drop_eq_getElem_cons (l := text) (i := stop) (by omega)
      rw [here]
      exact tokenizes_blank (gap stop _ low (Nat.lt_succ_self stop) (List.getElem?_eq_getElem _)) _

/-- A text is read from the one end of a tiling on just if it is read from the other end on. -/
theorem tiling_tokenizes {text : List Char} {first stop : Nat} {tokens : List Token}
    (tiling : Tiling text first stop tokens) :
    Tokenizes (text.drop first) ↔ Tokenizes (text.drop stop) := by
  induction tokens generalizing first with
  | nil =>
      exact tokenizes_gap tiling.inside.1 tiling.inside.2 fun place c low high there =>
        tiling.gaps place c low high there (by simp)
  | cons t rest ih =>
      obtain ⟨low, span, high⟩ := tiling.spans t (by simp)
      have below := tiling.inside.2
      have gap : Tokenizes (text.drop first) ↔ Tokenizes (text.drop t.start) :=
        tokenizes_gap low (by omega) fun place c after before there =>
          tiling_gap tiling after before there
      have parts : text.drop t.start = slice text t.start t.stop ++ text.drop t.stop := by
        have behind : text.drop t.stop = (text.drop t.start).drop (t.stop - t.start) := by
          rw [List.drop_drop, Nat.add_sub_of_le (Nat.le_of_lt span)]
        rw [behind, slice, List.take_append_drop]
      have tile := tiling.tiles t (by simp)
      rw [parts] at tile
      rw [gap, parts, tokenizes_tile tile, ih (tiling_tail tiling)]

theorem unclosed_solid {text : List Char} (unclosed : Unclosed text) :
    ∃ c rest, text = c :: rest ∧ isBlank c = false := by
  cases unclosed with
  | @backtick rest => exact ⟨'\x60', rest, rfl, by decide⟩
  | @quote c rest mark => exact ⟨c, rest, rfl, (quote_other mark).2.2⟩

/-- A text is read as tokens that tile it, or it is refused, and it is refused just if some tiling
of its front comes to a quote that is not closed. -/
theorem tokens_tile (text : List Char) :
    ((∃ tokens, tokenize text = .ok tokens ∧ Tiling text 0 text.length tokens) ∨
      ∃ e, tokenize text = .error e) ∧
    ((∃ e, tokenize text = .error e) ↔
      ∃ stop tokens, Tiling text 0 stop tokens ∧ Unclosed (text.drop stop)) := by
  have scanned : Scanned text 0 (tokenize text) := by
    have read : Scanned text 0 (tokensFrom text text.length 0 (text.drop 0)) :=
      scanned_tokens (Nat.zero_le _) (Nat.le_refl _)
    exact read
  cases read : tokenize text with
  | ok tokens =>
      rw [read] at scanned
      refine ⟨.inl ⟨tokens, rfl, scanned⟩, iff_of_false (by simp) ?_⟩
      rintro ⟨stop, others, tiling, unclosed⟩
      have behind : Tokenizes (text.drop stop) := (tiling_tokenizes tiling).mp ⟨tokens, read⟩
      obtain ⟨c, rest, here, solid⟩ := unclosed_solid unclosed
      rw [here] at behind unclosed
      exact not_tokenizes_unclosed solid unclosed behind
  | error e =>
      rw [read] at scanned
      exact ⟨.inr ⟨e, rfl⟩, iff_of_true ⟨e, rfl⟩ scanned⟩

end SchemaCompiler.Ddl
