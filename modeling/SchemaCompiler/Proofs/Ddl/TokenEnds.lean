import SchemaCompiler.Proofs.Ddl.Tiling

/-!
Where tokens end. Other text may stand behind a token, and it is still read as it was, as long as
no number or word goes further into the new text and no second quote follows a literal. That holds
where the text is cut short, and where it goes on in another way behind a closing parenthesis.
-/

namespace SchemaCompiler.Ddl

open Text

/-! Texts behind a span -/

theorem number_no_closing {run : List Char} (number : Number run) : ')' ∉ run := by
  have digits {text : List Char} (some : Digits text) : ')' ∉ text := by
    intro member
    exact decimal_digit_apart (some.2 _ member) (by decide) rfl
  have unsigned {text : List Char} (unsigned : Unsigned text) : ')' ∉ text := by
    cases unsigned with
    | whole some => exact digits some
    | fraction some behind => simp [digits some, digits behind]
  cases number with
  | plain some => exact unsigned some
  | signed mark some =>
      have apart := unsigned some
      rcases mark with rfl | rfl
      · simp [apart]
      · simp [apart]

theorem word_no_closing {run : List Char} (word : Word run) : ')' ∉ run := by
  cases word with
  | letters letter others =>
      intro member
      rcases List.mem_cons.mp member with rfl | behind
      · cases letter
      · cases List.all_eq_true.mp others _ behind

/-- Text that may stand behind a span in place of other text. It starts alike, if it goes on at
all, and leads no number or word over the span further than the other text did. -/
structure Replaces (span rest other : List Char) : Prop where
  starts : ∀ c, other.head? = some c → rest.head? = some c
  runs : ∀ run, Number run ∨ Word run → run <+: span ++ other → run <+: span ++ rest

theorem replaces_cut {rest other : List Char} (cut : other <+: rest) (span : List Char) :
    Replaces span rest other := by
  obtain ⟨left, rfl⟩ := cut
  refine ⟨fun c first => ?_, fun run _ leads => ?_⟩
  · have present : other ≠ [] := by
      rintro rfl
      cases first
    rw [List.head?_append_of_ne_nil other present]
    exact first
  · exact leads.trans (by rw [← List.append_assoc]; exact List.prefix_append _ _)

/-- No number and no word goes over a closing parenthesis. -/
theorem replaces_behind_closing {front : List Char} (closed : ')' ∈ front)
    (span rest other : List Char) : Replaces span (front ++ rest) (front ++ other) := by
  have present : front ≠ [] := List.ne_nil_of_mem closed
  refine ⟨fun c first => ?_, fun run kind leads => ?_⟩
  · rw [List.head?_append_of_ne_nil front present] at first ⊢
    exact first
  · have apart : ')' ∉ run := kind.elim number_no_closing word_no_closing
    rw [← List.append_assoc] at leads ⊢
    rcases List.prefix_or_prefix_of_prefix leads (List.prefix_append (span ++ front) other) with
      short | long
    · exact short.trans (List.prefix_append _ _)
    · exact absurd (long.subset (List.mem_append_right span closed)) apart

/-! Tiles -/

section Replaced

variable {kind : TokenKind} {value span rest other : List Char}

theorem longest_replaced {spelled : List Char → Prop}
    (longest : Longest spelled (span ++ rest) span)
    (within : ∀ run, spelled run → run <+: span ++ other → run <+: span ++ rest) :
    Longest spelled (span ++ other) span :=
  ⟨longest.fits, List.prefix_append span other, fun run fits leads =>
    longest.longest run fits (within run fits leads)⟩

/-- A closing parenthesis is a tile whatever stands behind it. -/
theorem tile_replaced (tile : Tile (span ++ rest) kind value span)
    (replaces : kind ≠ .closing → Replaces span rest other) :
    Tile (span ++ other) kind value span := by
  cases tile with
  | identifier plain => exact .identifier plain
  | string literal => exact .string literal
  | number longest =>
      have runs := (replaces (by decide)).runs
      exact .number (longest_replaced longest fun run number => runs run (Or.inl number))
  | word longest =>
      have runs := (replaces (by decide)).runs
      exact .word (longest_replaced longest fun run word => runs run (Or.inr word))
  | opening => exact .opening
  | closing => exact .closing
  | comma => exact .comma
  | symbol single =>
      have runs := (replaces (by decide)).runs
      exact .symbol ⟨single.solid, single.unmarked, single.letter, fun run number leads =>
        single.number run number (runs run (Or.inl number) leads)⟩

theorem quoted_append {quote : Char} {content value inner more : List Char}
    (first : Quoted quote content value) (second : Quoted quote inner more) :
    Quoted quote (content ++ quote :: quote :: inner) (value ++ quote :: more) := by
  induction first with
  | done => exact .doubled second
  | plain notQuote notSlash _ ih => exact .plain notQuote notSlash ih
  | doubled _ ih => exact .doubled ih
  | escaped notFeed _ ih => exact .escaped notFeed ih
  | feed _ ih => exact .feed ih

/-- A literal that is read up to a quote has no other quote of its kind right behind it, if what is
behind it is read: the other one would open a literal there, and the first one would take it in. -/
theorem literal_apart {quote : Char} {content value : List Char} (mark : IsQuote quote)
    (quoted : Quoted quote content value)
    (read : literalContent? quote (content ++ quote :: rest) = some content)
    (tokenizes : Tokenizes rest) : rest.head? ≠ some quote := by
  intro first
  obtain ⟨more, rfl⟩ := List.head?_eq_some_iff.mp first
  cases found : literalContent? quote more with
  | none =>
      have unclosed := (quote_unclosed_iff mark more).mpr found
      exact not_tokenizes_unclosed (quote_other mark).2.2 unclosed tokenizes
  | some inner =>
      obtain ⟨_, back, behind, rfl⟩ := quoted_of_content found
      have joined := quoted_append quoted behind
      have same : content ++ quote :: quote :: (inner ++ quote :: back) =
          content ++ quote :: quote :: inner ++ quote :: back := by simp
      rw [same] at read
      rcases literal_content_cases (quote_other mark).1 joined back with whole | ⟨_, _, _, _, whole⟩
      · rw [whole] at read
        simp at read
      · rw [whole] at read
        simp at read

theorem first_lexeme_literal (literal : Literal span value)
    (read : firstLexeme? (span ++ rest) = some ⟨.string, value, span.length⟩)
    (tokenizes : Tokenizes rest) (starts : ∀ c, other.head? = some c → rest.head? = some c) :
    firstLexeme? (span ++ other) = some ⟨.string, value, span.length⟩ := by
  cases literal with
  | @between quote content value mark quoted =>
      have closed (text : List Char) : quote :: (content ++ [quote]) ++ text =
          quote :: (content ++ quote :: text) := by simp
      have slash := (quote_other mark).1
      rw [closed, first_lexeme_quote mark] at read ⊢
      have short : literalContent? quote (content ++ quote :: rest) = some content := by
        rcases literal_content_cases slash quoted rest with same | ⟨_, _, _, _, same⟩
        · exact same
        · rw [same] at read
          simp at read
      have apart := literal_apart mark quoted short tokenizes
      have ends : other.head? ≠ some quote := fun next => apart (starts quote next)
      rw [literal_content_quoted slash quoted ends, Option.map_some,
        literal_value_quoted slash quoted]
      simp

theorem first_lexeme_replaced (tile : Tile (span ++ rest) kind value span)
    (read : firstLexeme? (span ++ rest) = some ⟨kind, value, span.length⟩)
    (tokenizes : Tokenizes rest) (replaces : kind ≠ .closing → Replaces span rest other) :
    firstLexeme? (span ++ other) = some ⟨kind, value, span.length⟩ := by
  by_cases plain : kind = .string
  · subst plain
    have starts := (replaces (by decide)).starts
    cases tile with
    | string literal => exact first_lexeme_literal literal read tokenizes starts
  · exact first_lexeme_tile (tile_replaced tile replaces) plain

end Replaced

end SchemaCompiler.Ddl
