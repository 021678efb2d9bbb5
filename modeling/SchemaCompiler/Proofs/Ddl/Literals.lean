import SchemaCompiler.Ddl.Labels

/-!
Quoted literals and lists of labels. What may stand between quotes is told character by
character, beside the text that it stands for. Reading undoes doubled quotes in a first pass and
backslashes in a second one, and neither pass meddles with what the other is to undo.
-/

namespace SchemaCompiler.Ddl

open Text

/-- What stands between the quotes of a literal, and the text that it stands for. A quote is
doubled or escaped, a backslash escaped, and anything else may be escaped too. Only in front of a
line feed a backslash escapes nothing and stands for itself. -/
inductive Quoted (quote : Char) : List Char → List Char → Prop
  | done : Quoted quote [] []
  | plain {c : Char} {content value : List Char} (notQuote : c ≠ quote) (notSlash : c ≠ '\\')
      (behind : Quoted quote content value) : Quoted quote (c :: content) (c :: value)
  | doubled {content value : List Char} (behind : Quoted quote content value) :
      Quoted quote (quote :: quote :: content) (quote :: value)
  | escaped {c : Char} {content value : List Char} (notFeed : c ≠ '\n')
      (behind : Quoted quote content value) : Quoted quote ('\\' :: c :: content) (c :: value)
  | feed {content value : List Char} (behind : Quoted quote content value) :
      Quoted quote ('\\' :: '\n' :: content) ('\\' :: '\n' :: value)

variable {quote : Char} {content value : List Char}

/-! What a literal stands for -/

theorem undouble_other {c : Char} (other : c ≠ quote) (text : List Char) :
    undoubleQuotes quote (c :: text) = c :: undoubleQuotes quote text := by
  cases text with
  | nil => rfl
  | cons d rest => simp [undoubleQuotes, other]

theorem drop_escapes_other {c : Char} (other : c ≠ '\\') (text : List Char) :
    dropEscapes (c :: text) = c :: dropEscapes text := by
  rw [dropEscapes]
  rintro d rest rfl
  exact absurd rfl other

theorem undouble_pair (text : List Char) :
    undoubleQuotes quote (quote :: quote :: text) = quote :: undoubleQuotes quote text := by
  simp [undoubleQuotes]

/-- The first pass leaves a character in front of a content alone, even a quote: of an odd run
of quotes the one that is left over may as well be the first. -/
theorem undouble_first (mark : quote ≠ '\\') (quoted : Quoted quote content value) (c : Char) :
    undoubleQuotes quote (c :: content) = c :: undoubleQuotes quote content := by
  by_cases same : c = quote
  · subst same
    have slash : '\\' ≠ c := mark.symm
    induction quoted with
    | done => rfl
    | plain notQuote => simp [undoubleQuotes, notQuote]
    | doubled _ ih => rw [undouble_pair, undouble_pair, ih]
    | escaped => simp [undoubleQuotes, slash]
    | feed => simp [undoubleQuotes, slash]
  · exact undouble_other same content

/-- The two passes give the text that the content stands for. -/
theorem literal_value_quoted (mark : quote ≠ '\\') (quoted : Quoted quote content value) :
    literalValue quote content = value := by
  have slash : '\\' ≠ quote := mark.symm
  rw [literalValue]
  induction quoted with
  | done => rfl
  | plain notQuote notSlash _ ih =>
      rw [undouble_other notQuote, drop_escapes_other notSlash, ih]
  | doubled _ ih => rw [undouble_pair, drop_escapes_other mark, ih]
  | escaped notFeed behind ih =>
      rw [undouble_other slash, undouble_first mark behind, dropEscapes]
      simp [notFeed, ih]
  | feed behind ih =>
      rw [undouble_other slash, undouble_first mark behind, dropEscapes]
      simp [ih]

/-! Where a literal ends -/

theorem literal_content_escape (mark : quote ≠ '\\') (c : Char) (rest : List Char) :
    literalContent? quote ('\\' :: c :: rest) =
      (literalContent? quote rest).map ('\\' :: c :: ·) := by
  simp [literalContent?, mark.symm]

theorem literal_content_plain {c : Char} (notQuote : c ≠ quote) (notSlash : c ≠ '\\')
    (rest : List Char) :
    literalContent? quote (c :: rest) = (literalContent? quote rest).map (c :: ·) := by
  rw [literalContent?.eq_def]
  simp [notQuote, notSlash]

/-- A quote that may close a literal does so, unless it is one half of a doubled quote with a
closing one further behind. Then the content goes on over the literal that the second half
would start. -/
theorem literal_content_cases (mark : quote ≠ '\\') (quoted : Quoted quote content value)
    (rest : List Char) :
    literalContent? quote (content ++ quote :: rest) = some content ∨
      ∃ inner more, rest = quote :: more ∧ literalContent? quote more = some inner ∧
        literalContent? quote (content ++ quote :: rest) =
          some (content ++ quote :: quote :: inner) := by
  induction quoted with
  | done =>
      cases rest with
      | nil => simp [literalContent?]
      | cons next more =>
          by_cases doubled : next = quote
          · subst doubled
            cases behind : literalContent? next more with
            | none => simp [literalContent?, behind]
            | some inner => simp [literalContent?, behind]
          · simp [literalContent?, doubled]
  | plain notQuote notSlash _ ih =>
      rw [List.cons_append, literal_content_plain notQuote notSlash]
      rcases ih with same | ⟨inner, more, rfl, behind, same⟩
      · simp [same]
      · simp [same, behind]
  | @doubled content value _ ih =>
      rw [List.cons_append, List.cons_append]
      rcases ih with same | ⟨inner, more, rfl, behind, same⟩
      · simp [literalContent?, same]
      · simp [literalContent?, same, behind]
  | escaped _ _ ih =>
      rw [List.cons_append, List.cons_append, literal_content_escape mark]
      rcases ih with same | ⟨inner, more, rfl, behind, same⟩
      · simp [same]
      · simp [same, behind]
  | feed _ ih =>
      rw [List.cons_append, List.cons_append, literal_content_escape mark]
      rcases ih with same | ⟨inner, more, rfl, behind, same⟩
      · simp [same]
      · simp [same, behind]

/-- A content goes up to its closing quote, unless another quote stands right behind it. -/
theorem literal_content_quoted (mark : quote ≠ '\\') (quoted : Quoted quote content value)
    {rest : List Char} (ends : rest.head? ≠ some quote) :
    literalContent? quote (content ++ quote :: rest) = some content := by
  rcases literal_content_cases mark quoted rest with same | ⟨inner, more, rfl, _⟩
  · exact same
  · exact absurd rfl ends

/-- What is read as a content stands for a text, with a quote behind it. -/
theorem quoted_of_content {text : List Char}
    (read : literalContent? quote text = some content) :
    ∃ value rest, Quoted quote content value ∧ text = content ++ quote :: rest := by
  fun_induction literalContent? quote text generalizing content with
  | case1 => cases read
  | case2 c here next more doubled inner found ih =>
      cases read
      obtain ⟨value, rest, quoted, rfl⟩ := ih found
      rw [beq_iff_eq.mp here, beq_iff_eq.mp doubled]
      exact ⟨quote :: value, rest, .doubled quoted, rfl⟩
  | case3 c here next more doubled =>
      cases read
      rw [beq_iff_eq.mp here]
      exact ⟨[], next :: more, .done, rfl⟩
  | case4 c here next more single =>
      cases read
      rw [beq_iff_eq.mp here]
      exact ⟨[], next :: more, .done, rfl⟩
  | case5 c here =>
      cases read
      rw [beq_iff_eq.mp here]
      exact ⟨[], [], .done, rfl⟩
  | case6 => cases read
  | case7 c other slash escaped more ih =>
      obtain ⟨inner, found, rfl⟩ := Option.map_eq_some_iff.mp read
      obtain ⟨value, rest, quoted, rfl⟩ := ih found
      rw [beq_iff_eq.mp slash]
      by_cases feed : escaped = '\n'
      · rw [feed]
        exact ⟨_, rest, .feed quoted, rfl⟩
      · exact ⟨_, rest, .escaped feed quoted, rfl⟩
  | case8 c more other noSlash ih =>
      obtain ⟨inner, found, rfl⟩ := Option.map_eq_some_iff.mp read
      obtain ⟨value, rest, quoted, rfl⟩ := ih found
      exact ⟨_, rest, .plain (by simpa using other) (by simpa using noSlash) quoted, rfl⟩

/-- The two marks that literals stand between. -/
def IsQuote (c : Char) : Prop := c = '\'' ∨ c = '"'

instance (c : Char) : Decidable (IsQuote c) := inferInstanceAs (Decidable (c = '\'' ∨ c = '"'))

/-- A literal in single or double quotes and the text that it stands for. -/
inductive Literal : List Char → List Char → Prop
  | between {quote : Char} {content value : List Char} (mark : IsQuote quote)
      (quoted : Quoted quote content value) : Literal (quote :: (content ++ [quote])) value

theorem quote_other {c : Char} (mark : IsQuote c) : c ≠ '\\' ∧ c ≠ '\x60' ∧ isBlank c = false := by
  rcases mark with rfl | rfl <;> decide

theorem first_lexeme_quote (mark : IsQuote quote) (rest : List Char) :
    firstLexeme? (quote :: rest) = (literalContent? quote rest).map fun content =>
      ⟨.string, literalValue quote content, content.length + 2⟩ := by
  rcases mark with rfl | rfl
  · simp [firstLexeme?]
  · simp [firstLexeme?]

/-! Lists -/

/-- A group holds none but the tokens that are grouped. -/
theorem mem_groups {tokens group : List Token} (among : group ∈ groups tokens) {t : Token}
    (inside : t ∈ group) : t ∈ tokens := by
  induction tokens generalizing group with
  | nil =>
      obtain rfl : group = [] := by simpa [groups] using among
      cases inside
  | cons first rest ih =>
      rw [groups] at among
      split at among
      · rcases List.mem_cons.mp among with rfl | later
        · cases inside
        · exact List.mem_cons_of_mem first (ih later inside)
      · split at among
        · obtain rfl : group = [first] := by simpa using among
          obtain rfl := List.mem_singleton.mp inside
          exact List.mem_cons_self
        · next run more found =>
          rcases List.mem_cons.mp among with rfl | later
          · rcases List.mem_cons.mp inside with rfl | behind
            · exact List.mem_cons_self
            · exact List.mem_cons_of_mem first (ih (by simp [found]) behind)
          · exact List.mem_cons_of_mem first (ih (by simp [found, later]) inside)

section Mapped

variable {f : Token → Token} (kinds : ∀ t, (f t).kind = t.kind)

include kinds

theorem groups_map (tokens : List Token) :
    groups (tokens.map f) = (groups tokens).map (List.map f) := by
  induction tokens with
  | nil => rfl
  | cons t rest ih =>
      simp only [List.map_cons, groups, kinds, ih]
      split
      · rfl
      · cases groups rest with
        | nil => rfl
        | cons group more => rfl

variable {g : List Char → List Char} (values : ∀ t, (f t).value.toList = g t.value.toList)
  {text other : List Char}

include values

/-- Tokens that span the same text up to a change stand for the same text up to it. -/
theorem element_text_map (group : List Token)
    (spans : ∀ s ∈ group, ∀ t ∈ group,
      slice other (f s).start (f t).stop = g (slice text s.start t.stop)) :
    elementText other (group.map f) = (elementText text group).map g := by
  cases group with
  | nil => rfl
  | cons first rest =>
      cases rest with
      | nil =>
          have same := spans first (by simp) first (by simp)
          simp only [List.map_cons, List.map_nil, elementText, kinds, values, same]
          split
          · rfl
          · rfl
      | cons second more =>
          obtain ⟨last, found⟩ : ∃ last, (second :: more).getLast? = some last :=
            ⟨_, List.getLast?_eq_some_getLast (List.cons_ne_nil second more)⟩
          have member : last ∈ second :: more := List.mem_of_getLast? found
          have same := spans first (by simp) last (List.mem_cons_of_mem first member)
          have mapped : ((second :: more).map f).getLast? = some (f last) := by
            rw [List.getLast?_map, found]
            rfl
          rw [List.map_cons] at mapped ⊢
          simp [elementText, found, mapped, same]

theorem elements_map (found : List (List Token))
    (spans : ∀ group ∈ found, ∀ s ∈ group, ∀ t ∈ group,
      slice other (f s).start (f t).stop = g (slice text s.start t.stop)) :
    (found.map (List.map f)).mapM (elementText other) =
      (found.mapM (elementText text)).map (List.map g) := by
  induction found with
  | nil => rfl
  | cons group rest ih =>
      have first := element_text_map kinds values group (spans group (by simp))
      have later := ih fun run member => spans run (List.mem_cons_of_mem group member)
      simp only [List.map_cons, List.mapM_cons, first, later]
      cases elementText text group with
      | none => rfl
      | some element =>
          cases rest.mapM (elementText text) with
          | none => rfl
          | some elements => rfl

end Mapped

/-- The labels that the tokens between parentheses make up. The text that they are read for is
named where one is empty. -/
def listedLabels (text shown : List Char) (inner : List Token) : Except ParseError (List String) :=
  match (groups inner).mapM (elementText text) with
  | none => fail (.emptyElement (String.ofList shown)) shown
  | some elements => .ok (elements.map fun e => String.ofList (lowerFrom false (trim e)))

/-- The labels of a text are what the tokens between its first parentheses make up. -/
theorem labels_listed {text : List Char} {front inner back : List Token} {first last : Token}
    (read : tokenize text = .ok (front ++ first :: (inner ++ last :: back)))
    (opening : first.kind = .opening) (closing : last.kind = .closing)
    (before : ∀ t ∈ front, t.kind ≠ .opening ∧ t.kind ≠ .closing)
    (inside : ∀ t ∈ inner, t.kind ≠ .closing) : labels text = listedLabels text text inner := by
  have start : ((front ++ first :: (inner ++ last :: back)).map Token.kind).idxOf .opening =
      front.length := by
    have absent : TokenKind.opening ∉ front.map Token.kind := by
      simpa using fun t member => (before t member).1
    rw [List.map_append, List.map_cons, opening, List.idxOf_append, if_neg absent]
    simp
  have stop : ((front ++ first :: (inner ++ last :: back)).map Token.kind).idxOf .closing =
      front.length + 1 + inner.length := by
    have absent : TokenKind.closing ∉ (front ++ first :: inner).map Token.kind := by
      simpa [opening] using ⟨fun t member => (before t member).2, inside⟩
    rw [← List.cons_append, ← List.append_assoc, List.map_append, List.map_cons, closing,
      List.idxOf_append, if_neg absent]
    simp
    omega
  have between : ((front ++ first :: (inner ++ last :: back)).drop (front.length + 1)).take
      (front.length + 1 + inner.length - (front.length + 1)) = inner := by
    rw [List.append_cons, List.drop_left' (by simp), Nat.add_sub_cancel_left, List.take_left]
  have present : TokenKind.opening ∈ (front ++ first :: (inner ++ last :: back)).map Token.kind ∧
      TokenKind.closing ∈ (front ++ first :: (inner ++ last :: back)).map Token.kind := by
    simp [opening, closing]
  have ordered : ¬ front.length + 1 + inner.length < front.length := by omega
  simp only [labels, read, bind, Except.bind, List.contains_iff_mem.mpr present.1,
    List.contains_iff_mem.mpr present.2, start, stop, between]
  simp only [Bool.not_true, Bool.false_eq_true, if_false, ordered]
  rfl

end SchemaCompiler.Ddl
