import SchemaCompiler.Proofs.Ddl.ColumnReading

/-!
Lines of a table's body read into the table. A line of pieces stands on one line, nothing is
trimmed off it, and it neither opens nor closes a table; a column adds its field and a foreign
key line marks one.
-/

namespace SchemaCompiler.Ddl

open Text

/-! Lines -/

/-- Pieces that take their words from the stock and all other text from the given ones. -/
def Piece.MadeOf (texts : List String) : Piece → Prop
  | .name text | .literal text => String.ofList text ∈ texts
  | .word letters => String.ofList letters ∈ stock
  | _ => True

/-- Pieces that do not end in a gap. -/
def Closed (pieces : List Piece) : Prop := pieces.getLast? ≠ some .gap

/-- A line that starts with a name or a word. -/
structure Line (texts : List String) (pieces : List Piece) : Prop where
  fitting : Fitting pieces
  made : ∀ p ∈ pieces, p.MadeOf texts
  starts : ∃ p ∈ pieces.head?, (∃ text, p = .name text) ∨ ∃ letters, p = .word letters
  ends : Closed pieces

theorem quiet_piece {texts : List String}
    (quiet : ∀ t ∈ texts, hasCreateTable false t.toList = false) {p : Piece}
    (made : p.MadeOf texts) : p.Quiet := by
  cases p with
  | name text | literal text =>
      have found := quiet _ made
      rw [String.toList_ofList] at found
      exact found
  | word letters =>
      have found := keyword_quiet made
      rw [keyword, String.toList_ofList] at found
      exact found
  | gap | number | opening | closing | comma => trivial

theorem no_line_break {c : Char} (solid : isBlank c = false) : isLineBreak c = false := by
  simp only [isBlank, isLineBreak, Bool.or_eq_false_iff, Bool.and_eq_false_iff,
    decide_eq_false_iff_not, beq_eq_false_iff_ne] at solid ⊢
  omega

theorem unbroken_of_all {text : List Char} (all : text.all (fun c => !isLineBreak c) = true) :
    ∀ c ∈ text, isLineBreak c = false := by
  intro c member
  simpa using List.all_eq_true.mp all c member

theorem mem_escaped {c : Char} {text : List Char} (member : c ∈ escaped text) : c ∈ text := by
  induction text with
  | nil => cases member
  | cons d rest ih =>
      rw [escaped] at member
      split at member
      · simp only [List.mem_cons] at member ⊢
        rcases member with same | same | later
        · exact Or.inl same
        · exact Or.inl same
        · exact Or.inr (ih later)
      · rcases List.mem_cons.mp member with same | later
        · exact List.mem_cons.mpr (Or.inl same)
        · exact List.mem_cons_of_mem d (ih later)

theorem piece_unbroken {texts : List String}
    (lines : ∀ t ∈ texts, ∀ c ∈ t.toList, isLineBreak c = false) {p : Piece} (sound : p.Sound)
    (made : p.MadeOf texts) : ∀ c ∈ p.text, isLineBreak c = false := by
  intro c member
  cases p with
  | name text =>
      have inside := lines _ made
      rw [String.toList_ofList] at inside
      simp only [Piece.text, List.mem_cons, List.mem_append, List.not_mem_nil, or_false] at member
      rcases member with rfl | among | rfl
      · decide
      · exact inside c among
      · decide
  | literal text =>
      have inside := lines _ made
      rw [String.toList_ofList] at inside
      simp only [Piece.text, List.mem_cons, List.mem_append, List.not_mem_nil, or_false] at member
      rcases member with rfl | among | rfl
      · decide
      · exact inside c (mem_escaped among)
      · decide
  | number digits => exact no_line_break (ascii_digit_solid (sound.2 c member))
  | word letters => exact no_line_break (starts_word_plain (sound.2 c member)).2
  | gap | opening | closing | comma =>
      simp only [Piece.text, List.mem_singleton] at member
      subst member
      decide

theorem line_unbroken {texts : List String} {pieces : List Piece} (line : Line texts pieces)
    (lines : ∀ t ∈ texts, ∀ c ∈ t.toList, isLineBreak c = false) :
    ∀ c ∈ piecesText pieces, isLineBreak c = false := by
  intro c member
  obtain ⟨p, among, inside⟩ := List.mem_flatMap.mp member
  exact piece_unbroken lines (line.fitting.1 p among) (line.made p among) c inside

theorem line_quiet {texts : List String} {pieces : List Piece} (line : Line texts pieces)
    (quiet : ∀ t ∈ texts, hasCreateTable false t.toList = false) :
    hasCreateTable false (piecesText pieces) = false :=
  has_create_table_pieces line.fitting fun p member => quiet_piece quiet (line.made p member)

/-- What a line starts with. -/
theorem line_first {texts : List String} {pieces : List Piece} (line : Line texts pieces) :
    ∃ c more, piecesText pieces = c :: more ∧ (c = '\x60' ∨ startsWord c = true) := by
  obtain ⟨p, first, shape⟩ := line.starts
  obtain ⟨rest, rfl⟩ : ∃ rest, pieces = p :: rest := by
    cases pieces with
    | nil => cases first
    | cons q rest =>
        cases first
        exact ⟨rest, rfl⟩
  rcases shape with ⟨text, rfl⟩ | ⟨letters, rfl⟩
  · exact ⟨'\x60', _, rfl, Or.inl rfl⟩
  · obtain ⟨present, inside⟩ := line.fitting.1 _ (List.mem_cons_self ..)
    obtain ⟨c, more, rfl⟩ := List.exists_cons_of_ne_nil present
    exact ⟨c, _, rfl, Or.inr (inside c (by simp))⟩

theorem piece_ends {p : Piece} (sound : p.Sound) (solid : p ≠ .gap) :
    ∃ front c, p.text = front ++ [c] ∧ isBlank c = false := by
  cases p with
  | gap => exact absurd rfl solid
  | name text => exact ⟨'\x60' :: text, '\x60', rfl, by decide⟩
  | literal text => exact ⟨'\'' :: escaped text, '\'', rfl, by decide⟩
  | number digits =>
      obtain ⟨front, c, rfl⟩ := (List.eq_nil_or_concat' digits).resolve_left sound.1
      exact ⟨front, c, rfl, ascii_digit_solid (sound.2 c (by simp))⟩
  | word letters =>
      obtain ⟨front, c, rfl⟩ := (List.eq_nil_or_concat' letters).resolve_left sound.1
      exact ⟨front, c, rfl, (starts_word_plain (sound.2 c (by simp))).2⟩
  | opening | closing | comma => exact ⟨[], _, rfl, by decide⟩

theorem line_solid {texts : List String} {pieces : List Piece} (line : Line texts pieces) :
    Solid (piecesText pieces) := by
  constructor
  · intro c first
    obtain ⟨d, more, text, shape⟩ := line_first line
    rw [text] at first
    cases first
    rcases shape with rfl | starts
    · decide
    · exact (starts_word_plain starts).2
  · intro c last
    rcases List.eq_nil_or_concat' pieces with rfl | ⟨front, p, rfl⟩
    · cases last
    · have solid : p ≠ .gap := by
        rintro rfl
        exact line.ends (by simp)
      obtain ⟨before, d, text, kept⟩ := piece_ends (line.fitting.1 p (by simp)) solid
      rw [pieces_text_append, pieces_text_cons, text, pieces_text_nil, List.append_nil,
        ← List.append_assoc, List.getLast?_concat] at last
      cases last
      exact kept

/-! The two kinds of lines -/

theorem closed_append {front back : List Piece} (first : Closed front) (second : Closed back) :
    Closed (front ++ back) := by
  intro last
  rcases List.eq_nil_or_concat' back with rfl | ⟨before, p, rfl⟩
  · rw [List.append_nil] at last
    exact first last
  · rw [← List.append_assoc, List.getLast?_concat] at last
    apply second
    rw [List.getLast?_concat]
    exact last

theorem closed_grouped (argument : Option (List Piece)) : Closed (grouped argument) := by
  cases argument with
  | none => simp [Closed, grouped]
  | some inner =>
      have last : grouped (some inner) = (.opening :: inner) ++ [.closing] := rfl
      rw [Closed, last, List.getLast?_concat]
      simp

theorem closed_spaced (words : List String) : Closed (spaced words) := by
  induction words with
  | nil => simp [Closed, spaced]
  | cons word rest ih =>
      have step : spaced (word :: rest) = [.gap, keyword word] ++ spaced rest := rfl
      rw [step]
      exact closed_append (by simp [Closed, keyword]) ih

theorem closed_remark (word : String) (text : Option String) : Closed (remark word text) := by
  cases text <;> simp [Closed, remark]

theorem closed_ending {tail : List Piece} (ending : Ending tail) : Closed tail := by
  rcases ending with rfl | rfl <;> simp [Closed]

theorem fitting_ending {tail : List Piece} (ending : Ending tail) : Trailing tail := by
  rcases ending with rfl | rfl
  · exact trailing_nil
  · exact trailing_divider rfl fitting_nil

theorem fitting_argument {f : Field} (length : ∀ n, f.characters = some n → 0 ≤ n) :
    ∀ inner, typeArgument f = some inner → Fitting inner := by
  intro inner same
  rw [typeArgument] at same
  split at same
  · cases same
    obtain ⟨size, known⟩ : ∃ size : Nat, f.characters.getD 0 = (size : Int) := by
      cases characters : f.characters with
      | none => exact ⟨0, rfl⟩
      | some n => exact Int.eq_ofNat_of_zero_le (length n characters)
    rw [known, Json.integer_text_nat]
    have sound : (Piece.number (Nat.toDigits 10 size)).Sound :=
      ⟨Nat.toDigits_ne_nil, to_digits_ascii size⟩
    exact fitting_before sound trailing_nil
  · cases same
    exact fitting_literals _
  · cases same
    exact fitting_literals _
  · cases same

theorem made_literals {texts found : List String} (among : ∀ label ∈ found, label ∈ texts) :
    ∀ p ∈ literals found, p.MadeOf texts := by
  induction found with
  | nil => simp [literals]
  | cons label rest ih =>
      have head : (Piece.literal label.toList).MadeOf texts := by
        simpa [Piece.MadeOf] using among label (by simp)
      have tail := ih fun l member => among l (List.mem_cons_of_mem label member)
      cases rest with
      | nil => simpa [literals] using head
      | cons next more =>
          intro p member
          rcases List.mem_cons.mp member with rfl | behind
          · exact head
          · rcases List.mem_cons.mp behind with rfl | later
            · trivial
            · exact tail p later

theorem made_grouped {f : Field} {r : Remarks} :
    ∀ p ∈ grouped (typeArgument f), p.MadeOf ("id" :: writtenTexts f r) := by
  have inside : ∀ inner, typeArgument f = some inner →
      ∀ p ∈ inner, p.MadeOf ("id" :: writtenTexts f r) := by
    intro inner same
    rw [typeArgument] at same
    split at same
    · cases same
      simp [Piece.MadeOf]
    · cases same
      exact made_literals fun label member => by simp [writtenTexts, member]
    · cases same
      exact made_literals fun label member => by simp [writtenTexts, member]
    · cases same
  cases argument : typeArgument f with
  | none => simp [grouped]
  | some inner =>
      intro p member
      simp only [grouped, List.mem_cons, List.mem_append, List.not_mem_nil, or_false] at member
      rcases member with rfl | among | rfl
      · trivial
      · exact inside inner argument p among
      · trivial

theorem made_spaced {words texts : List String} (known : ∀ w ∈ words, w ∈ stock) :
    ∀ p ∈ spaced words, p.MadeOf texts := by
  intro p member
  obtain ⟨word, among, inside⟩ := List.mem_flatMap.mp member
  simp only [List.mem_cons, List.not_mem_nil, or_false] at inside
  rcases inside with rfl | rfl
  · trivial
  · simpa [Piece.MadeOf, keyword] using known word among

theorem made_remark {word : String} {texts : List String} (known : word ∈ stock)
    {text : Option String} (among : ∀ t, text = some t → t ∈ texts) :
    ∀ p ∈ remark word text, p.MadeOf texts := by
  cases text with
  | none => simp [remark]
  | some t => simp [remark, Piece.MadeOf, keyword, known, among t rfl]

theorem made_ending {texts : List String} {tail : List Piece} (ending : Ending tail) :
    ∀ p ∈ tail, p.MadeOf texts := by
  rcases ending with rfl | rfl <;> simp [Piece.MadeOf]

theorem column_line {f : Field} {r : Remarks} (nameless : '\x60' ∉ f.title.toList)
    (length : ∀ n, f.characters = some n → 0 ≤ n) {tail : List Piece} (ending : Ending tail) :
    Line ("id" :: writtenTexts f r) (columnPieces f r ++ tail) := by
  have shape : columnPieces f r ++ tail = [.name f.title.toList, .gap,
      keyword (typeName f.datatype)] ++ (grouped (typeArgument f) ++ (attributes f r ++ tail)) := by
    simp [columnPieces]
  have behind : Trailing (grouped (typeArgument f) ++ (attributes f r ++ tail)) :=
    trailing_append (trailing_grouped (fitting_argument length))
      (trailing_append (trailing_attributes f r) (fitting_ending ending))
  have type := type_name_known f.datatype
  rw [shape]
  refine ⟨?_, ?_, ⟨_, rfl, Or.inl ⟨_, rfl⟩⟩, ?_⟩
  · have front := fitting_before (keyword_sound type) behind
    exact fitting_before (p := .name f.title.toList) nameless (trailing_divider rfl front)
  · intro p member
    simp only [List.mem_append, List.mem_cons, List.not_mem_nil, or_false, attributes] at member
    rcases member with (rfl | rfl | rfl) | group | (flags | default | comment) | last
    · simp [Piece.MadeOf, writtenTexts]
    · trivial
    · simpa [Piece.MadeOf, keyword] using type
    · exact made_grouped p group
    · exact made_spaced (flag_words_known _ _ _ _ _) p flags
    · refine made_remark (by decide +kernel) (fun t same => ?_) p default
      simp [writtenTexts, same]
    · refine made_remark (by decide +kernel) (fun t same => ?_) p comment
      simp [writtenTexts, same]
    · exact made_ending ending p last
  · refine closed_append (by simp [Closed, keyword]) (closed_append (closed_grouped _) ?_)
    exact closed_append (closed_append (closed_spaced _)
      (closed_append (closed_remark _ _) (closed_remark _ _))) (closed_ending ending)

theorem foreign_line {f : Field} {r : Remarks} (nameless : '\x60' ∉ f.title.toList)
    {target : String} (refers : f.foreign = some target) (plain : '\x60' ∉ target.toList)
    {tail : List Piece} (ending : Ending tail) :
    Line ("id" :: writtenTexts f r) (foreignPieces f.title target ++ tail) := by
  have foreign : "FOREIGN" ∈ stock := by decide +kernel
  have key : "KEY" ∈ stock := by decide +kernel
  have references : "REFERENCES" ∈ stock := by decide +kernel
  have column : (Piece.name f.title.toList).Sound := nameless
  have table : (Piece.name target.toList).Sound := plain
  have id : (Piece.name "id".toList).Sound := by
    rw [Piece.Sound]
    decide
  refine ⟨?_, ?_, ⟨_, rfl, Or.inr ⟨_, rfl⟩⟩, ?_⟩
  · -- from the last piece to the first, as each has to fit in front of the ones behind it
    have last := trailing_divider (p := .closing) rfl (fitting_ending ending).fitting
    have listed := trailing_divider (p := .gap) rfl
      (fitting_divider (p := .opening) rfl (fitting_before id last))
    have named := trailing_divider (p := .gap) rfl (fitting_before table listed)
    have behind := trailing_divider (p := .closing) rfl
      (fitting_divider (p := .gap) rfl (fitting_before (keyword_sound references) named))
    have group := trailing_divider (p := .gap) rfl
      (fitting_divider (p := .opening) rfl (fitting_before column behind))
    have words := trailing_divider (p := .gap) rfl (fitting_before (keyword_sound key) group)
    exact fitting_before (keyword_sound foreign) words
  · have among : target ∈ writtenTexts f r := by simp [writtenTexts, refers]
    have title : f.title ∈ writtenTexts f r := by simp [writtenTexts]
    intro p member
    rcases List.mem_append.mp member with inside | last
    · simp only [foreignPieces, List.mem_cons, List.not_mem_nil, or_false] at inside
      rcases inside with rfl | rfl | rfl | rfl | rfl | rfl | rfl | rfl | rfl | rfl | rfl | rfl |
        rfl | rfl | rfl <;>
        simp [Piece.MadeOf, keyword, foreign, key, references, among, title]
    · exact made_ending ending p last
  · exact closed_append (by simp [Closed, foreignPieces]) (closed_ending ending)

/-! What the lines do -/

theorem line_no_comment {texts : List String} {pieces : List Piece} (line : Line texts pieces) :
    isComment (piecesText pieces) = false ∧ closesTable (piecesText pieces) = false ∧
      (piecesText pieces).isEmpty = false := by
  obtain ⟨c, more, text, shape⟩ := line_first line
  have other (d : Char) (mark : d ≠ '\x60' ∧ startsWord d = false) : c ≠ d := by
    rintro rfl
    rcases shape with same | starts
    · exact mark.1 same
    · rw [starts] at mark
      cases mark.2
  rw [text]
  refine ⟨?_, ?_, rfl⟩
  · have dash := other '-' (by decide)
    have hash := other '#' (by decide)
    have slash := other '/' (by decide)
    simp [isComment, List.isPrefixOf, dash.symm, hash.symm, slash.symm]
  · simp [closesTable, other ')' (by decide)]

theorem other_kind_no_word {t : Token} (kind : t.kind ≠ .word) (candidates : List String) :
    t.isWord candidates = false := by
  simp [Token.isWord, kind]

/-- A column line adds the column's field. -/
theorem read_table_line_column {f : Field} {r : Remarks} {t : Table} (sound : SoundField f)
    (nameless : '\x60' ∉ f.title.toList) (length : ∀ n, f.characters = some n → 0 ≤ n)
    (short : ∀ n, f.characters = some n → (Nat.toDigits 10 n.natAbs).length ≤ maxLengthDigits)
    {tail : List Piece} (ending : Ending tail) (fresh : f.title ∉ t.fields.titles) :
    readTableLine (piecesText (columnPieces f r ++ tail)) t =
      { table := t.add { f with foreign := none } } := by
  have line := column_line (r := r) nameless length ending
  obtain ⟨name, rest, tokens, kind, read⟩ := read_column_written sound length short
    (r := r) ending
  have tokenized := tokenize_pieces line.fitting
  rw [tokens] at tokenized
  have unknown : t.fields.contains f.title = false := by simpa [Catalog.contains] using fresh
  have noComment := (line_no_comment line).1
  have noWord := other_kind_no_word (t := name) (by simp [kind])
  generalize columnPieces f r ++ tail = pieces at read tokenized noComment ⊢
  rw [readTableLine, noComment, tokenized]
  simp [noWord, kind, readColumnLine, read, unknown]

/-- The column between the first parentheses refers to the name behind the second keyword. -/
theorem read_foreign_key_tokens {foreign key opening column closing references target : Token}
    (rest : List Token) (t : Table) (starts : foreign.isWord ["foreign"] = true)
    (keyed : key.isWord ["references"] = false)
    (unrelated : foreign.isWord ["references"] = false)
    (refers : references.isWord ["references"] = true)
    (kinds : [foreign, key, opening, column, closing, target].map Token.kind =
      [.word, .word, .opening, .identifier, .closing, .identifier])
    (word : references.kind = .word) :
    readForeignKey
      (foreign :: key :: opening :: column :: closing :: references :: target :: rest) t =
      markForeignColumns target.value t [lower column.value] := by
  simp only [List.map_cons, List.map_nil, List.cons.injEq, and_true] at kinds
  obtain ⟨first, second, third, fourth, fifth, last⟩ := kinds
  have opens := other_kind_no_word (t := opening) (by simp [third]) ["references"]
  have names := other_kind_no_word (t := column) (by simp [fourth]) ["references"]
  have closes := other_kind_no_word (t := closing) (by simp [fifth]) ["references"]
  simp [readForeignKey, List.findIdx_cons, starts, unrelated, keyed, opens, names, closes, refers,
    listedColumns, first, second, third, fourth, fifth, last, word]

theorem read_table_line_key {text : List Char} {first : Token} {rest : List Token} {t : Table}
    (noComment : isComment text = false) (tokenized : tokenize text = .ok (first :: rest))
    (notPrimary : first.isWord ["primary"] = false) (notUnique : first.isWord ["unique"] = false)
    (starts : first.isWord ["constraint", "foreign"] = true) :
    readTableLine text t = readForeignKey (first :: rest) t := by
  rw [readTableLine, noComment, tokenized]
  simp [notPrimary, notUnique, starts]

/-- A foreign key line marks its column. -/
theorem read_table_line_foreign {f : Field} {r : Remarks} {t : Table} {target : String}
    (lowered : lower f.title = f.title) (nameless : '\x60' ∉ f.title.toList)
    (refers : f.foreign = some target) (plain : '\x60' ∉ target.toList) {tail : List Piece}
    (ending : Ending tail) (known : f.title ∈ t.fields.titles) :
    readTableLine (piecesText (foreignPieces f.title target ++ tail)) t =
      { table := t.markForeign f.title target } := by
  have line := foreign_line (r := r) nameless refers plain ending
  have tokenized := tokenize_pieces line.fitting
  have noComment := (line_no_comment line).1
  have listed : t.fields.contains f.title = true := by simpa [Catalog.contains] using known
  have foreign : lower "FOREIGN" = "foreign" := by decide +kernel
  have key : lower "KEY" = "key" := by decide +kernel
  have references : lower "REFERENCES" = "references" := by decide +kernel
  generalize piecesText (foreignPieces f.title target ++ tail) = text at tokenized noComment ⊢
  rw [tokens_at_append] at tokenized
  simp only [foreignPieces, keyword, tokensAt, Piece.content?, String.ofList_toList,
    List.cons_append] at tokenized
  rw [read_table_line_key noComment tokenized (by simp [Token.isWord, foreign])
      (by simp [Token.isWord, foreign]) (by simp [Token.isWord, foreign]),
    read_foreign_key_tokens _ t (by simp [Token.isWord, foreign]) (by simp [Token.isWord, key])
      (by simp [Token.isWord, foreign]) (by simp [Token.isWord, references]) rfl rfl]
  simp [markForeignColumns, lowered, listed]

end SchemaCompiler.Ddl
