import SchemaCompiler.Proofs.Ddl.Writer
import SchemaCompiler.Proofs.Json.Integer

/-!
Columns read back from what is written of them. The pieces of a column fit, its type spans the
group behind it, and only the words behind the group set flags.
-/

namespace SchemaCompiler.Ddl

open Text Json

/-! Fitting lines -/

/-- Pieces that fit behind any other ones. -/
structure Trailing (pieces : List Piece) : Prop where
  fitting : Fitting pieces
  leads : ∀ p, pieces.head? = some p → p.divides = true

theorem fitting_nil : Fitting [] := ⟨by simp, .nil⟩

theorem fitting_divider {p : Piece} (divides : p.divides = true) {rest : List Piece}
    (fitting : Fitting rest) : Fitting (p :: rest) := by
  constructor
  · intro q member
    rcases List.mem_cons.mp member with rfl | later
    · cases q with
      | gap | opening | closing | comma => trivial
      | name | literal | number | word => cases divides
    · exact fitting.1 q later
  · cases rest with
    | nil => exact .singleton p
    | cons q more => exact List.isChain_cons_cons.mpr ⟨Or.inl divides, fitting.2⟩

theorem fitting_before {p : Piece} (sound : p.Sound) {rest : List Piece}
    (trailing : Trailing rest) : Fitting (p :: rest) :=
  have single : Fitting [p] := ⟨by simpa using sound, .singleton p⟩
  fitting_append single trailing.fitting trailing.leads

theorem literal_sound (text : List Char) : (Piece.literal text).Sound := trivial

theorem trailing_nil : Trailing [] := ⟨fitting_nil, by simp⟩

theorem trailing_divider {p : Piece} (divides : p.divides = true) {rest : List Piece}
    (fitting : Fitting rest) : Trailing (p :: rest) := by
  refine ⟨fitting_divider divides fitting, ?_⟩
  rintro q ⟨⟩
  exact divides

theorem trailing_append {front back : List Piece} (first : Trailing front)
    (second : Trailing back) : Trailing (front ++ back) := by
  refine ⟨fitting_append first.fitting second.fitting second.leads, ?_⟩
  intro p start
  cases front with
  | nil => exact second.leads p start
  | cons q rest => exact first.leads p start

theorem trailing_grouped {argument : Option (List Piece)}
    (fitting : ∀ inner, argument = some inner → Fitting inner) : Trailing (grouped argument) := by
  cases argument with
  | none => exact trailing_nil
  | some inner =>
      have closed : Trailing [Piece.closing] := trailing_divider rfl fitting_nil
      exact trailing_divider rfl (fitting_append (fitting inner rfl) closed.fitting closed.leads)

theorem trailing_spaced {words : List String} (sound : ∀ w ∈ words, (keyword w).Sound) :
    Trailing (spaced words) := by
  induction words with
  | nil => exact trailing_nil
  | cons word rest ih =>
      have tail := ih fun w member => sound w (List.mem_cons_of_mem word member)
      exact trailing_divider rfl (fitting_before (sound word (by simp)) tail)

theorem trailing_remark {word : String} (sound : (keyword word).Sound) (text : Option String) :
    Trailing (remark word text) := by
  cases text with
  | none => exact trailing_nil
  | some text =>
      have last : Trailing [.gap, .literal text.toList] :=
        trailing_divider rfl (fitting_before (literal_sound _) trailing_nil)
      exact trailing_divider rfl (fitting_before sound last)

theorem fitting_literals (labels : List String) : Fitting (literals labels) := by
  induction labels with
  | nil => exact fitting_nil
  | cons label rest ih =>
      cases rest with
      | nil => exact fitting_before (literal_sound _) trailing_nil
      | cons next more => exact fitting_before (literal_sound _) (trailing_divider rfl ih)

/-- The words that columns and foreign keys are written with. -/
def stock : List String :=
  ["int", "varchar", "enum", "set", "tinyint", "json", "unsigned", "NOT", "NULL",
    "AUTO_INCREMENT", "PRIMARY", "KEY", "UNIQUE", "DEFAULT", "COMMENT", "FOREIGN", "REFERENCES"]

theorem keyword_sound {word : String} (known : word ∈ stock) : (keyword word).Sound := by
  have checked : stock.all fun w => w.toList != [] && w.toList.all startsWord := by decide +kernel
  have found := List.all_eq_true.mp checked word known
  simpa [keyword, Piece.Sound] using found

-- Two letters suffice to tell every word of the stock from the one that opens a table.
theorem keyword_quiet {word : String} (known : word ∈ stock) : (keyword word).Quiet := by
  have checked : stock.all fun w => 2 ≤ w.toList.length &&
      (w.toList.take 2).map asciiUpperChar != ['C', 'R'] := by decide +kernel
  have found := List.all_eq_true.mp checked word known
  simp only [Bool.and_eq_true, decide_eq_true_eq, bne_iff_ne] at found
  exact found

theorem type_name_known (d : Datatype) : typeName d ∈ stock := by
  cases d <;> decide +kernel

theorem flag_words_known (unsigned required increment primary unique : Bool) :
    ∀ w ∈ flagWords unsigned required increment primary unique, w ∈ stock := by
  revert unsigned required increment primary unique
  decide +kernel

theorem trailing_attributes (f : Field) (r : Remarks) : Trailing (attributes f r) := by
  refine trailing_append (trailing_spaced fun w member => ?_) (trailing_append ?_ ?_)
  · exact keyword_sound (flag_words_known _ _ _ _ _ w member)
  · exact trailing_remark (keyword_sound (by decide +kernel)) r.default
  · exact trailing_remark (keyword_sound (by decide +kernel)) r.comment

/-! Groups and flags -/

def wordOf? : Piece → Option String
  | .word letters => some (String.ofList letters)
  | _ => none

def flagsOf (pieces : List Piece) : List String := (pieces.filterMap wordOf?).map lower

theorem flags_of_tokens (start : Nat) (pieces : List Piece) :
    ((tokensAt start pieces).filter (·.kind == .word)).map (fun t => lower t.value) =
      flagsOf pieces := by
  induction pieces generalizing start with
  | nil => rfl
  | cons p rest ih =>
      have tail := ih (start + p.text.length)
      cases p <;> simp [tokensAt, Piece.content?, flagsOf, wordOf?] at tail ⊢ <;> exact tail

theorem token_of_piece {start : Nat} {pieces : List Piece} {t : Token}
    (member : t ∈ tokensAt start pieces) :
    ∃ p ∈ pieces, ∃ value, p.content? = some (t.kind, value) := by
  induction pieces generalizing start with
  | nil => cases member
  | cons p rest ih =>
      rw [tokensAt] at member
      split at member
      · obtain ⟨q, among, found⟩ := ih member
        exact ⟨q, List.mem_cons_of_mem p among, found⟩
      · next kind value content =>
        rcases List.mem_cons.mp member with rfl | later
        · exact ⟨p, by simp, value, content⟩
        · obtain ⟨q, among, found⟩ := ih later
          exact ⟨q, List.mem_cons_of_mem p among, found⟩

theorem no_closing_token {start : Nat} {pieces : List Piece} (open_ : Piece.closing ∉ pieces) :
    ∀ t ∈ tokensAt start pieces, (t.kind == .closing) = false := by
  intro t member
  obtain ⟨p, among, value, content⟩ := token_of_piece member
  have other : t.kind ≠ .closing := by
    intro same
    rw [same] at content
    cases p with
    | closing => exact open_ among
    | gap | name | literal | number | word | opening | comma => cases content
  simpa using other

theorem find_idx_behind {α : Type} (p : α → Bool) {front : List α} {a : α} (back : List α)
    (before : ∀ b ∈ front, p b = false) (here : p a = true) :
    (front ++ a :: back).findIdx p = front.length := by
  induction front with
  | nil => simp [List.findIdx_cons, here]
  | cons b rest ih =>
      have tail := ih fun c member => before c (List.mem_cons_of_mem b member)
      simp [List.findIdx_cons, before b (by simp), tail]

theorem no_opening_token {start : Nat} {pieces : List Piece} (closed : Piece.opening ∉ pieces) :
    ∀ t ∈ tokensAt start pieces, t.kind ≠ .opening := by
  intro t member same
  obtain ⟨p, among, value, content⟩ := token_of_piece member
  rw [same] at content
  cases p with
  | opening => exact closed among
  | gap | name | literal | number | word | closing | comma => cases content

theorem tokens_at_grouped (start : Nat) (inner : List Piece) :
    tokensAt start (grouped (some inner)) =
      ⟨.opening, "(", start, start + 1⟩ :: (tokensAt (start + 1) inner ++
        [⟨.closing, ")", start + 1 + (piecesText inner).length,
          start + 1 + (piecesText inner).length + 1⟩]) := by
  simp [grouped, tokensAt, Piece.content?, Piece.text, tokens_at_append]

/-- A group goes up to the first closing parenthesis. -/
theorem group_length_closed {opening closing : Token} {inner : List Token}
    (opens : opening.kind = .opening) (inside : ∀ t ∈ inner, t.kind ≠ .closing)
    (closes : closing.kind = .closing) (behind : List Token) (line : List Char) :
    groupLength (opening :: (inner ++ closing :: behind)) line = .ok (inner.length + 2) := by
  have open_ : ∀ t ∈ opening :: inner, (t.kind == .closing) = false := by
    simpa [opens] using inside
  have found := find_idx_behind (·.kind == .closing) behind open_ (a := closing) (by simp [closes])
  rw [List.cons_append] at found
  simp only [groupLength, found]
  simp [opens, closes]

theorem group_length_grouped {argument : Option (List Piece)} (line : List Char) (start : Nat)
    (plain : ∀ inner, argument = some inner → Piece.closing ∉ inner) {behind : List Token}
    (apart : ∀ t ∈ behind, t.kind ≠ .opening) :
    groupLength (tokensAt start (grouped argument) ++ behind) line =
      .ok (tokensAt start (grouped argument)).length := by
  cases argument with
  | none =>
      cases behind with
      | nil => rfl
      | cons t rest => simp [grouped, tokensAt, groupLength, apart t (by simp)]
  | some inner =>
      rw [tokens_at_grouped]
      have open_ : ∀ t ∈ tokensAt (start + 1) inner, t.kind ≠ .closing := fun t member =>
        beq_eq_false_iff_ne.mp (no_closing_token (plain inner rfl) t member)
      let opening : Token := ⟨.opening, "(", start, start + 1⟩
      let closing : Token := ⟨.closing, ")", start + 1 + (piecesText inner).length,
        start + 1 + (piecesText inner).length + 1⟩
      have opens : opening.kind = .opening := rfl
      have closes : closing.kind = .closing := rfl
      simpa [opening, closing] using group_length_closed opens open_ closes behind line

theorem grouped_stop {argument : Option (List Piece)} {start : Nat} {type : Token}
    (stop : type.stop = start) :
    ((tokensAt start (grouped argument)).getLast?.getD type).stop =
      start + (piecesText (grouped argument)).length := by
  cases argument with
  | none => exact stop
  | some inner =>
      rw [tokens_at_grouped, ← List.cons_append, List.getLast?_concat]
      simp [grouped, Piece.text]
      omega

theorem slice_middle (front middle back : List Char) :
    slice (front ++ (middle ++ back)) front.length (front.length + middle.length) = middle := by
  simp [slice]

/-- A column of pieces is read from the type in front of its group and from the words behind. -/
theorem read_column_pieces (title letters : List Char) {argument : Option (List Piece)}
    {back : List Piece} (named : String.ofList title ≠ "")
    (lowered : lower (String.ofList title) = String.ofList title)
    (plain : ∀ inner, argument = some inner → Piece.closing ∉ inner)
    (apart : Piece.opening ∉ back) {line : List Char}
    (written : line = piecesText
      (.name title :: .gap :: .word letters :: (grouped argument ++ back))) :
    ∃ name rest, tokensAt 0 (.name title :: .gap :: .word letters :: (grouped argument ++ back)) =
        name :: rest ∧ name.kind = .identifier ∧
      readColumn name rest line =
        (readType (String.ofList title) (lower (String.ofList letters))
          (letters ++ piecesText (grouped argument)) argument.isSome (flagsOf back) line).map
          fun field => { field with
            required := hasWords ["not", "null"] (flagsOf back)
            primary := hasWords ["primary", "key"] (flagsOf back)
            unique := (flagsOf back).contains "unique" } := by
  let front := (Piece.name title).text ++ [' ']
  let type : Token := ⟨.word, String.ofList letters, front.length, front.length + letters.length⟩
  let group := tokensAt type.stop (grouped argument)
  let behind := tokensAt (type.stop + (piecesText (grouped argument)).length) back
  have tokens : tokensAt 0 (.name title :: .gap :: .word letters :: (grouped argument ++ back)) =
      ⟨.identifier, String.ofList title, 0, (Piece.name title).text.length⟩ ::
        type :: (group ++ behind) := by
    simp [tokensAt, Piece.content?, tokens_at_append, type, front, group, behind, Piece.text]
  have size : groupLength (group ++ behind) line = .ok group.length :=
    group_length_grouped line type.stop plain (no_opening_token apart)
  have last : (group.getLast?.getD type).stop =
      type.stop + (piecesText (grouped argument)).length := grouped_stop rfl
  have some : decide (0 < group.length) = argument.isSome := by
    cases argument with
    | none => rfl
    | some inner => simp [group, tokens_at_grouped]
  have span : slice line type.start (type.stop + (piecesText (grouped argument)).length) =
      letters ++ piecesText (grouped argument) := by
    have middle := slice_middle front (letters ++ piecesText (grouped argument)) (piecesText back)
    simpa [written, type, front, Piece.text, Nat.add_assoc] using middle
  have flags : (behind.filter (·.kind == .word)).map (fun t => lower t.value) = flagsOf back :=
    flags_of_tokens _ back
  refine ⟨_, _, tokens, rfl, ?_⟩
  have word : (type.kind != .word) = false := rfl
  simp only [readColumn, lowered, beq_eq_false_iff_ne.mpr named, word, size, liftParse,
    Bool.false_eq_true, if_false, bind, Except.bind, List.take_left, List.drop_left, last, span,
    some, flags]
  cases readType (String.ofList title) (lower (String.ofList letters))
    (letters ++ piecesText (grouped argument)) argument.isSome (flagsOf back) line <;> rfl

/-! Types -/

/-- Every literal of a list is a group of its own and stands for its content. -/
theorem elements_literals (text : List Char) {found : List String} (present : found ≠ [])
    (start : Nat) :
    (groups (tokensAt start (literals found))).mapM (elementText text) =
      some (found.map String.toList) := by
  induction found generalizing start with
  | nil => exact absurd rfl present
  | cons label rest ih =>
      cases rest with
      | nil => simp [literals, tokensAt, Piece.content?, groups, elementText]
      | cons next more =>
          have tail := ih (List.cons_ne_nil next more)
            (start + (Piece.literal label.toList).text.length + Piece.comma.text.length)
          simp only [literals, tokensAt, Piece.content?, groups]
          simp [elementText, tail]

theorem no_marks_literals (found : List String) :
    Piece.closing ∉ literals found ∧ Piece.opening ∉ literals found := by
  induction found with
  | nil => simp [literals]
  | cons label rest ih =>
      cases rest with
      | nil => simp [literals]
      | cons next more => simpa [literals] using ih

theorem labels_literals {letters : List Char} (sound : (Piece.word letters).Sound)
    {found : List String} (present : found ≠ []) (normal : ∀ label ∈ found, Normal label) :
    labels (letters ++ piecesText (grouped (some (literals found)))) = .ok found := by
  have fitting : Fitting (.word letters :: grouped (some (literals found))) :=
    fitting_before sound (trailing_grouped fun inner same => by
      cases same
      exact fitting_literals found)
  have tokens := tokenize_pieces fitting
  rw [pieces_text_cons, tokensAt] at tokens
  simp only [Piece.content?, tokens_at_grouped] at tokens
  change tokenize (letters ++ piecesText (grouped (some (literals found)))) = _ at tokens
  have elements := elements_literals (letters ++ piecesText (grouped (some (literals found))))
    present (0 + (Piece.word letters).text.length + 1)
  have unclosed : ∀ t ∈ tokensAt (0 + (Piece.word letters).text.length + 1) (literals found),
      (t.kind == .closing) = false := no_closing_token (no_marks_literals found).1
  have lowered : found.map ((fun e => String.ofList (lowerFrom false (trim e))) ∘ String.toList) =
      found := by
    conv_rhs => rw [← List.map_id found]
    apply List.map_congr_left
    intro label member
    have kept := normal label member
    simpa [Normal, lower, trimString] using kept
  rw [← List.singleton_append] at tokens
  have read := labels_listed tokens rfl rfl (by simp) (by simpa using unclosed)
  rw [read, listedLabels, elements]
  dsimp only
  rw [List.map_map, lowered]

theorem index_behind {c : Char} {front : List Char} (before : c ∉ front) (back : List Char) :
    (front ++ c :: back).idxOf c = front.length := by
  simp [List.idxOf_append, before]

theorem digits_lowered {digits : List Char} (ascii : AsciiDigits digits) :
    lowerFrom false digits = digits := by
  apply lower_from_kept
  intro c member
  have range := ascii_digit_range (ascii c member)
  apply settled_ascii
  · omega
  · refine Bool.eq_false_iff.mpr fun upper => ?_
    have := ascii_upper_range upper
    omega

theorem digits_trimmed {digits : List Char} (ascii : AsciiDigits digits) :
    trim digits = digits := by
  have solid : ∀ c ∈ digits, isBlank c = false :=
    fun c member => ascii_digit_solid (ascii c member)
  apply trim_solid
  constructor
  · intro c first
    exact solid c (List.mem_of_head? first)
  · intro c last
    exact solid c (List.mem_of_getLast? last)

-- The letters of a type hold no parentheses, so the first ones are those around the digits.
theorem unwrap_digits {letters digits : List Char} (sound : (Piece.word letters).Sound)
    (ascii : AsciiDigits digits) :
    unwrapParentheses (letters ++ piecesText (grouped (some [.number digits]))) = .ok digits := by
  have written : letters ++ piecesText (grouped (some [.number digits])) =
      letters ++ '(' :: (digits ++ [')']) := by
    simp [grouped, Piece.text]
  have outside (c : Char) (noLetter : startsWord c = false) : c ∉ letters := by
    intro member
    rw [sound.2 c member] at noLetter
    cases noLetter
  have start := index_behind (outside '(' (by decide)) (digits ++ [')'])
  have noClosing : ')' ∉ letters ++ '(' :: digits := by
    intro member
    rcases List.mem_append.mp member with letter | digit
    · exact outside ')' (by decide) letter
    · rcases List.mem_cons.mp digit with same | digit
      · exact absurd same (by decide)
      · exact absurd (ascii ')' digit) (by decide)
  have stop := index_behind noClosing []
  rw [List.append_assoc, List.cons_append] at stop
  have inner : slice (letters ++ '(' :: (digits ++ [')'])) (letters.length + 1)
      (letters ++ '(' :: digits).length = digits := by
    have middle := slice_middle (letters ++ ['(']) digits [')']
    simpa [Nat.add_assoc, Nat.add_comm 1] using middle
  rw [written]
  simp only [unwrapParentheses, start, stop, inner, digits_lowered ascii]
  simp

theorem read_length_digits (line : List Char) {letters digits : List Char}
    (sound : (Piece.word letters).Sound) (present : digits ≠ []) (ascii : AsciiDigits digits)
    (short : digits.length ≤ maxLengthDigits) :
    readLength line (letters ++ piecesText (grouped (some [.number digits]))) =
      .ok (decimalValue digits) := by
  have decimal : digits.all isDecimalDigit = true :=
    List.all_eq_true.mpr fun c member => is_decimal_of_ascii (ascii c member)
  rw [readLength, unwrap_digits sound ascii]
  simp [liftParse, bind, Except.bind, digits_trimmed ascii, present, decimal,
    Nat.not_lt.mpr short]

/-- What the type of a column tells of it. -/
def typed (f : Field) : Field :=
  { f with foreign := none, required := false, primary := false, unique := false }

/-- The shapes that sound columns have, as far as their types tell. -/
inductive Shape (f : Field) : Prop
  | integer (kind : f.datatype = .signed64 ∨ f.datatype = .unsigned64)
      (same : typed f = { title := f.title, datatype := f.datatype, bytes := some 64,
                          increment := f.increment, generated := f.increment })
  | text (n : Int) (kind : f.datatype = .string) (known : f.characters = some n)
      (same : typed f = { title := f.title, datatype := .string, characters := some n })
  | enum (found : List String) (kind : f.datatype = .enum) (known : f.labels = some found)
      (same : typed f = { title := f.title, datatype := .enum, labels := some found })
  | set (found : LabelSet) (kind : f.datatype = .set) (known : f.members = some found)
      (same : typed f = { title := f.title, datatype := .set, members := some found })
  | bare (kind : f.datatype = .byte ∨ f.datatype = .json)
      (same : typed f = { title := f.title, datatype := f.datatype })

theorem sound_shape {f : Field} (sound : SoundField f) : Shape f := by
  obtain ⟨labels, members⟩ := (Field.checkConsistency_eq_ok_iff f).mp sound.consistent
  have characters := sound.characters
  have bytes := sound.bytes
  have increment := sound.increment
  have shape : typed f =
      { title := f.title, datatype := f.datatype, bytes := f.bytes, characters := f.characters,
        increment := f.increment, generated := f.increment, labels := f.labels,
        members := f.members } := by
    simp only [typed, sound.decimals, sound.regex, sound.generated]
  have among := sound.datatype
  simp only [List.mem_cons, List.not_mem_nil, or_false] at among
  rcases among with same | same | same | same | same | same | same
  all_goals simp [same] at labels members characters bytes increment shape
  · exact .integer (Or.inl same) (by simp [shape, same, labels, members, characters, bytes])
  · exact .integer (Or.inr same) (by simp [shape, same, labels, members, characters, bytes])
  · obtain ⟨n, known⟩ := Option.isSome_iff_exists.mp characters
    exact .text n same known (by simp [shape, labels, members, known, bytes, increment])
  · obtain ⟨found, known⟩ := Option.isSome_iff_exists.mp labels
    exact .enum found same known (by simp [shape, known, members, characters, bytes, increment])
  · obtain ⟨found, known⟩ := Option.isSome_iff_exists.mp members
    exact .set found same known (by simp [shape, known, labels, characters, bytes, increment])
  · exact .bare (Or.inl same)
      (by simp [shape, same, labels, members, characters, bytes, increment])
  · exact .bare (Or.inr same)
      (by simp [shape, same, labels, members, characters, bytes, increment])

theorem type_name_lowered (d : Datatype) : lower (typeName d) = typeName d := by
  cases d <;> decide +kernel

theorem read_type_written {f : Field} (sound : SoundField f) {flags : List String}
    (unsigned : flags.contains "unsigned" = (f.datatype == .unsigned64))
    (increment : flags.contains "auto_increment" = f.increment)
    (length : ∀ n, f.characters = some n → 0 ≤ n)
    (short : ∀ n, f.characters = some n → (Nat.toDigits 10 n.natAbs).length ≤ maxLengthDigits)
    (line : List Char) :
    readType f.title (lower (typeName f.datatype))
      ((typeName f.datatype).toList ++ piecesText (grouped (typeArgument f)))
      (typeArgument f).isSome flags line = .ok (typed f) := by
  rw [type_name_lowered]
  cases sound_shape sound with
  | integer kind shape =>
      rw [shape]
      rcases kind with same | same
      · simp only [readType, typeName, same, unsigned, increment]
        rfl
      · simp only [readType, typeName, same, unsigned, increment]
        rfl
  | text n kind known shape =>
      obtain ⟨size, rfl⟩ := Int.eq_ofNat_of_zero_le (length n known)
      have digits : integerText (size : Int) = Nat.toDigits 10 size := integer_text_nat size
      have read := read_length_digits line (keyword_sound (type_name_known .string))
        Nat.toDigits_ne_nil (to_digits_ascii size) (short _ known)
      rw [decimal_value_to_digits] at read
      rw [shape]
      simp only [readType, typeName, typeArgument, kind, known, Option.getD_some, digits]
        at read ⊢
      rw [read]
      rfl
  | enum found kind known shape =>
      have read := labels_literals (keyword_sound (type_name_known .enum))
        (sound.labels found known).1 (sound.labels found known).2
      rw [shape]
      simp only [readType, typeName, typeArgument, kind, known, Option.getD_some] at read ⊢
      rw [read]
      rfl
  | set found kind known shape =>
      have read := labels_literals (keyword_sound (type_name_known .set))
        (sound.members found known).1 (sound.members found known).2
      rw [shape]
      simp only [readType, typeName, typeArgument, kind, known, Option.map_some,
        Option.getD_some] at read ⊢
      rw [read]
      simp [liftParse, bind, Except.bind, LabelSet.of_list_to_list]
  | bare kind shape =>
      rw [shape]
      rcases kind with same | same
      · simp only [readType, typeName, typeArgument, same]
        rfl
      · simp only [readType, typeName, typeArgument, same]
        rfl

/-! Columns -/

/-- The words behind a type as they are recognized, in lower case. -/
def recognized (unsigned required increment primary unique default comment : Bool) :
    List String :=
  (flagWords unsigned required increment primary unique ++
    ((if default then ["DEFAULT"] else []) ++ if comment then ["COMMENT"] else [])).map lower

theorem recognized_flags (unsigned required increment primary unique default comment : Bool) :
    let flags := recognized unsigned required increment primary unique default comment
    flags.contains "unsigned" = unsigned ∧ flags.contains "auto_increment" = increment ∧
      hasWords ["not", "null"] flags = required ∧ hasWords ["primary", "key"] flags = primary ∧
      flags.contains "unique" = unique := by
  revert unsigned required increment primary unique default comment
  decide +kernel

theorem words_spaced (words : List String) : (spaced words).filterMap wordOf? = words := by
  induction words with
  | nil => rfl
  | cons word rest ih =>
      have step : spaced (word :: rest) = .gap :: keyword word :: spaced rest := rfl
      simp [step, List.filterMap_cons, wordOf?, keyword, ih]

theorem words_remark (word : String) (text : Option String) :
    (remark word text).filterMap wordOf? = if text.isSome then [word] else [] := by
  cases text <;> simp [remark, List.filterMap_cons, wordOf?, keyword]

/-- A line may end in a comma. -/
def Ending (tail : List Piece) : Prop := tail = [] ∨ tail = [.comma]

theorem flags_of_attributes (f : Field) (r : Remarks) {tail : List Piece} (ending : Ending tail) :
    flagsOf (attributes f r ++ tail) =
      recognized (f.datatype == .unsigned64) f.required f.increment f.primary f.unique
        r.default.isSome r.comment.isSome := by
  have nothing : tail.filterMap wordOf? = [] := by
    rcases ending with rfl | rfl <;> rfl
  simp only [flagsOf, attributes, List.filterMap_append, words_spaced, words_remark, nothing,
    List.append_nil, recognized]

theorem no_opening_attributes (f : Field) (r : Remarks) {tail : List Piece}
    (ending : Ending tail) : Piece.opening ∉ attributes f r ++ tail := by
  have noSpaced (words : List String) : Piece.opening ∉ spaced words := by
    simp [spaced, keyword]
  have noRemark (word : String) (text : Option String) : Piece.opening ∉ remark word text := by
    cases text <;> simp [remark, keyword]
  have noTail : Piece.opening ∉ tail := by
    rcases ending with rfl | rfl <;> simp
  simp [attributes, noSpaced, noRemark, noTail]

theorem no_closing_argument (f : Field) :
    ∀ inner, typeArgument f = some inner → Piece.closing ∉ inner := by
  intro inner same
  rw [typeArgument] at same
  split at same
  · cases same
    simp
  · cases same
    exact (no_marks_literals _).1
  · cases same
    exact (no_marks_literals _).1
  · cases same

/-- A written column is read as its field, but for the table it refers to. -/
theorem read_column_written {f : Field} (sound : SoundField f) {r : Remarks}
    (length : ∀ n, f.characters = some n → 0 ≤ n)
    (short : ∀ n, f.characters = some n → (Nat.toDigits 10 n.natAbs).length ≤ maxLengthDigits)
    {tail : List Piece} (ending : Ending tail) :
    ∃ name rest, tokensAt 0 (columnPieces f r ++ tail) = name :: rest ∧ name.kind = .identifier ∧
      readColumn name rest (piecesText (columnPieces f r ++ tail)) =
        .ok { f with foreign := none } := by
  have same : columnPieces f r ++ tail =
      .name f.title.toList :: .gap :: .word (typeName f.datatype).toList ::
        (grouped (typeArgument f) ++ (attributes f r ++ tail)) := by
    simp [columnPieces, keyword]
  rw [same]
  obtain ⟨name, rest, tokens, kind, read⟩ := read_column_pieces f.title.toList
    (typeName f.datatype).toList (by rw [String.ofList_toList]; exact sound.named)
    (by rw [String.ofList_toList]; exact sound.lowered) (no_closing_argument f)
    (no_opening_attributes f r ending) rfl
  have flags := recognized_flags (f.datatype == .unsigned64) f.required f.increment f.primary
    f.unique r.default.isSome r.comment.isSome
  simp only at flags
  rw [← flags_of_attributes f r ending] at flags
  obtain ⟨unsigned, increment, required, primary, unique⟩ := flags
  have typed := read_type_written sound unsigned increment length short
    (piecesText (.name f.title.toList :: .gap :: .word (typeName f.datatype).toList ::
      (grouped (typeArgument f) ++ (attributes f r ++ tail))))
  rw [String.ofList_toList, String.ofList_toList, typed, required, primary, unique] at read
  exact ⟨name, rest, tokens, kind, read⟩

end SchemaCompiler.Ddl
