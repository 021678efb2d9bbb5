import SchemaCompiler.Proofs.Ddl.Literals
import SchemaCompiler.Proofs.Ddl.TokenPlaces
import SchemaCompiler.Proofs.Text.Digits

/-!
What a token of each kind is written as. Numbers and words are the longest ones that the text
starts with, a symbol is a character that nothing else starts with, and only a quote that is
never closed starts no token.
-/

namespace SchemaCompiler.Ddl

open Text

/-! Blanks -/

/-- The code points of all blanks. -/
def blankCodes : List Nat :=
  [9, 10, 11, 12, 13, 28, 29, 30, 31, 32, 0x85, 0xA0, 0x1680, 0x2000, 0x2001, 0x2002, 0x2003,
    0x2004, 0x2005, 0x2006, 0x2007, 0x2008, 0x2009, 0x200A, 0x2028, 0x2029, 0x202F, 0x205F, 0x3000]

/-- A class that holds no blank is checked on their codes. -/
theorem blank_outside {p : Char → Bool} (checked : blankCodes.all fun n => !p (Char.ofNat n))
    {c : Char} (blank : isBlank c = true) : p c = false := by
  have code : c.toNat ∈ blankCodes := by
    simp [isBlank] at blank
    simp only [blankCodes, List.mem_cons, List.not_mem_nil, or_false]
    omega
  have found := List.all_eq_true.mp checked c.toNat code
  rw [Char.ofNat_toNat] at found
  simpa using found

theorem blank_ends_name {c : Char} (blank : isBlank c = true) : continuesName c = false :=
  blank_outside (by decide +kernel) blank

theorem decimal_digit_apart {c d : Char} (digit : isDecimalDigit c = true)
    (other : isDecimalDigit d = false) : c ≠ d := by
  rintro rfl
  rw [digit] at other
  cases other

/-! Numbers and words -/

def Digits (text : List Char) : Prop := text ≠ [] ∧ ∀ c ∈ text, isDecimalDigit c = true

/-- Digits, and perhaps a point with digits behind it. -/
inductive Unsigned : List Char → Prop
  | whole {digits : List Char} (some : Digits digits) : Unsigned digits
  | fraction {digits places : List Char} (some : Digits digits) (behind : Digits places) :
      Unsigned (digits ++ '.' :: places)

/-- A decimal number, perhaps with a sign in front. -/
inductive Number : List Char → Prop
  | plain {text : List Char} (unsigned : Unsigned text) : Number text
  | signed {sign : Char} {text : List Char} (mark : sign = '+' ∨ sign = '-')
      (unsigned : Unsigned text) : Number (sign :: text)

/-- A letter or an underscore and whatever goes on with a name. -/
inductive Word : List Char → Prop
  | letters {c : Char} {more : List Char} (first : startsWord c = true)
      (others : more.all continuesName = true) : Word (c :: more)

/-- The longest of the texts of a kind that the text starts with. -/
structure Longest (kind : List Char → Prop) (text found : List Char) : Prop where
  fits : kind found
  leads : found <+: text
  longest : ∀ other, kind other → other <+: text → other.length ≤ found.length

theorem longest_unique {kind : List Char → Prop} {text found other : List Char}
    (first : Longest kind text found) (second : Longest kind text other) : found = other := by
  have short := first.longest other second.fits second.leads
  have long := second.longest found first.fits first.leads
  have within := List.prefix_of_prefix_length_le first.leads second.leads long
  exact within.eq_of_length (Nat.le_antisymm long short)

section Prefixes

variable {p : Char → Bool} {text run : List Char}

theorem prefix_take_while (leads : run <+: text) (all : ∀ c ∈ run, p c = true) :
    run.length ≤ (text.takeWhile p).length := by
  obtain ⟨rest, rfl⟩ := leads
  rw [List.takeWhile_append_of_pos all, List.length_append]
  exact Nat.le_add_right _ _

end Prefixes

/-- The length of a number without a sign. -/
def unsignedLength (text : List Char) : Nat :=
  (text.takeWhile isDecimalDigit).length + fractionLength (text.dropWhile isDecimalDigit)

theorem fraction_taken (behind : List Char) :
    (fractionLength behind = 0) ∨ ∃ places rest, behind = '.' :: (places ++ rest) ∧
      Digits places ∧ fractionLength behind = places.length + 1 := by
  by_cases present : behind.head? = some '.' ∧ (behind.drop 1).takeWhile isDecimalDigit ≠ []
  · right
    obtain ⟨more, rfl⟩ := List.head?_eq_some_iff.mp present.1
    refine ⟨more.takeWhile isDecimalDigit, more.dropWhile isDecimalDigit, ?_, ?_, ?_⟩
    · rw [List.takeWhile_append_dropWhile]
    · exact ⟨present.2, fun c member => List.mem_takeWhile_imp member⟩
    · rw [fractionLength]
      exact if_pos present
  · left
    rw [fractionLength]
    exact if_neg present

theorem unsigned_taken {text : List Char} (present : text.takeWhile isDecimalDigit ≠ []) :
    Unsigned (text.take (unsignedLength text)) ∧ unsignedLength text ≤ text.length := by
  have parts := List.takeWhile_append_dropWhile (p := isDecimalDigit) (l := text)
  have whole : Digits (text.takeWhile isDecimalDigit) :=
    ⟨present, fun c member => List.mem_takeWhile_imp member⟩
  rw [unsignedLength]
  generalize text.takeWhile isDecimalDigit = digits at parts whole ⊢
  generalize text.dropWhile isDecimalDigit = behind at parts ⊢
  subst parts
  rcases fraction_taken behind with none | ⟨places, rest, rfl, some, length⟩
  · rw [none, Nat.add_zero, List.take_left]
    exact ⟨.whole whole, by simp⟩
  · have taken : (digits ++ '.' :: (places ++ rest)).take (digits.length + (places.length + 1)) =
        digits ++ '.' :: places := by
      rw [List.take_length_add_append, List.take_succ_cons, List.take_left]
    rw [length, taken]
    exact ⟨.fraction whole some, by simp⟩

/-- No number in front of the text goes beyond what is taken. -/
theorem unsigned_reaches {text run : List Char} (unsigned : Unsigned run) (leads : run <+: text) :
    text.takeWhile isDecimalDigit ≠ [] ∧ run.length ≤ unsignedLength text := by
  rw [unsignedLength]
  cases unsigned with
  | whole digits =>
      have reach := prefix_take_while leads digits.2
      have some := List.length_pos_iff.mpr digits.1
      refine ⟨List.length_pos_iff.mp (by omega), by omega⟩
  | @fraction digits places whole behind =>
      obtain ⟨rest, rfl⟩ := leads
      have point : isDecimalDigit '.' = false := by decide
      have front : (digits ++ '.' :: places ++ rest).takeWhile isDecimalDigit = digits := by
        rw [List.append_assoc, List.takeWhile_append_of_pos whole.2]
        simp [point]
      have back : (digits ++ '.' :: places ++ rest).dropWhile isDecimalDigit =
          '.' :: (places ++ rest) := by
        rw [List.append_assoc, List.dropWhile_append_of_pos whole.2]
        simp [point]
      have reach := prefix_take_while (List.prefix_append places rest) behind.2
      have some := List.length_pos_iff.mpr behind.1
      have length : fractionLength ('.' :: (places ++ rest)) =
          ((places ++ rest).takeWhile isDecimalDigit).length + 1 := by
        rw [fractionLength]
        apply if_pos
        exact ⟨rfl, List.length_pos_iff.mp (by simpa using by omega)⟩
      rw [front, back, length]
      refine ⟨whole.1, ?_⟩
      simp
      omega

theorem unsigned_first {run : List Char} (unsigned : Unsigned run) :
    ∃ c more, run = c :: more ∧ isDecimalDigit c = true := by
  cases unsigned with
  | whole digits =>
      obtain ⟨c, more, rfl⟩ := List.exists_cons_of_ne_nil digits.1
      exact ⟨c, more, rfl, digits.2 c (by simp)⟩
  | fraction digits =>
      obtain ⟨c, more, rfl⟩ := List.exists_cons_of_ne_nil digits.1
      exact ⟨c, _, rfl, digits.2 c (by simp)⟩

/-- A number starts with a sign or a digit. -/
theorem number_first {run : List Char} (number : Number run) :
    ∃ c more, run = c :: more ∧ isBlank c = false ∧ c ≠ '\x60' ∧ ¬ IsQuote c := by
  cases number with
  | plain unsigned =>
      obtain ⟨c, more, rfl, digit⟩ := unsigned_first unsigned
      have apart {d : Char} := decimal_digit_apart (d := d) digit
      exact ⟨c, more, rfl, decimal_digit_solid digit, apart (by decide),
        not_or.mpr ⟨apart (by decide), apart (by decide)⟩⟩
  | @signed sign unsigned mark some =>
      refine ⟨sign, unsigned, rfl, ?_⟩
      rcases mark with rfl | rfl
      · decide
      · decide

theorem sign_length_signed {sign : Char} (mark : sign = '+' ∨ sign = '-') (rest : List Char) :
    signLength (sign :: rest) = 1 := by
  simp [signLength, mark]

theorem sign_length_plain {c : Char} (other : ¬ (c = '+' ∨ c = '-')) (rest : List Char) :
    signLength (c :: rest) = 0 := by
  simp [signLength, other]

theorem number_length_unsigned (text : List Char) :
    numberLength? text =
      if ((text.drop (signLength text)).takeWhile isDecimalDigit).isEmpty then none
      else some (signLength text + unsignedLength (text.drop (signLength text))) := by
  rw [number_length_parts, unsignedLength, Nat.add_assoc]

theorem number_taken {text : List Char} {n : Nat} (read : numberLength? text = some n) :
    Number (text.take n) ∧ n ≤ text.length := by
  rw [number_length_unsigned] at read
  split at read
  · cases read
  · next present =>
    obtain ⟨unsigned, short⟩ := unsigned_taken (mt List.isEmpty_iff.mpr present)
    cases read
    cases text with
    | nil => exact absurd rfl present
    | cons c rest =>
        by_cases mark : c = '+' ∨ c = '-'
        · rw [sign_length_signed mark, List.drop_one, List.tail_cons] at unsigned short ⊢
          rw [Nat.add_comm, List.take_succ_cons]
          exact ⟨.signed mark unsigned, Nat.succ_le_succ short⟩
        · rw [sign_length_plain mark, List.drop_zero] at unsigned short ⊢
          rw [Nat.zero_add]
          exact ⟨.plain unsigned, short⟩

theorem number_reaches {text run : List Char} (number : Number run) (leads : run <+: text) :
    ∃ n, numberLength? text = some n ∧ run.length ≤ n := by
  have reaches {unsigned : List Char} (some : Unsigned unsigned)
      (behind : unsigned <+: text.drop (signLength text)) :
      numberLength? text = .some (signLength text + unsignedLength (text.drop (signLength text))) ∧
        unsigned.length ≤ unsignedLength (text.drop (signLength text)) := by
    obtain ⟨present, reach⟩ := unsigned_reaches some behind
    rw [number_length_unsigned, if_neg (mt List.isEmpty_iff.mp present)]
    exact ⟨rfl, reach⟩
  obtain ⟨rest, rfl⟩ := leads
  cases number with
  | plain unsigned =>
      obtain ⟨c, more, rfl, digit⟩ := unsigned_first unsigned
      have noSign : ¬ (c = '+' ∨ c = '-') :=
        not_or.mpr ⟨decimal_digit_apart digit (by decide), decimal_digit_apart digit (by decide)⟩
      have none : signLength (c :: more ++ rest) = 0 := sign_length_plain noSign _
      rw [none] at reaches
      obtain ⟨read, reach⟩ := reaches unsigned (List.prefix_append _ _)
      exact ⟨_, read, Nat.le_add_left_of_le reach⟩
  | @signed sign unsigned mark some =>
      have one : signLength (sign :: unsigned ++ rest) = 1 := sign_length_signed mark _
      rw [one] at reaches
      obtain ⟨read, reach⟩ := reaches some (List.prefix_append _ _)
      refine ⟨_, read, ?_⟩
      rw [List.length_cons]
      omega

theorem number_longest {text : List Char} {n : Nat} (read : numberLength? text = some n) :
    Longest Number text (text.take n) := by
  obtain ⟨number, short⟩ := number_taken read
  refine ⟨number, List.take_prefix n text, fun other found leads => ?_⟩
  obtain ⟨m, again, reach⟩ := number_reaches found leads
  rw [read] at again
  cases again
  rw [List.length_take_of_le short]
  exact reach

theorem number_absent {text : List Char} (read : numberLength? text = none) :
    ∀ run, Number run → ¬ run <+: text := by
  intro run number leads
  obtain ⟨n, found, _⟩ := number_reaches number leads
  rw [read] at found
  cases found

theorem word_longest {c : Char} (letter : startsWord c = true) (rest : List Char) :
    Longest Word (c :: rest) (c :: rest.takeWhile continuesName) := by
  refine ⟨.letters letter ?_, ?_, ?_⟩
  · exact List.all_takeWhile
  · exact (List.prefix_cons_inj c).mpr (List.takeWhile_prefix _)
  · intro other word leads
    cases word with
    | letters first others =>
        obtain ⟨rfl, behind⟩ := List.cons_prefix_cons.mp leads
        have reach := prefix_take_while behind (List.all_eq_true.mp others)
        exact Nat.succ_le_succ reach

/-! Lexemes -/

/-- A character that starts no other token. -/
structure Symbol (text : List Char) (c : Char) : Prop where
  solid : isBlank c = false
  unmarked : c ∉ ['(', ')', ',', '\x60', '\'', '"']
  letter : startsWord c = false
  number : ∀ run, Number run → ¬ run <+: text

/-- The kind and the value of a token that the text starts with, and the text of its span. -/
inductive Tile (text : List Char) : TokenKind → List Char → List Char → Prop
  | identifier {name : List Char} (plain : '\x60' ∉ name) :
      Tile text .identifier name ('\x60' :: (name ++ ['\x60']))
  | string {written value : List Char} (literal : Literal written value) :
      Tile text .string value written
  | number {run : List Char} (longest : Longest Number text run) : Tile text .number run run
  | word {run : List Char} (longest : Longest Word text run) : Tile text .word run run
  | opening : Tile text .opening ['('] ['(']
  | closing : Tile text .closing [')'] [')']
  | comma : Tile text .comma [','] [',']
  | symbol {c : Char} (other : Symbol text c) : Tile text .symbol [c] [c]

/-- A backtick with none behind it, or a quote that starts no literal. -/
inductive Unclosed : List Char → Prop
  | backtick {rest : List Char} (alone : '\x60' ∉ rest) : Unclosed ('\x60' :: rest)
  | quote {c : Char} {rest : List Char} (mark : IsQuote c)
      (open_ : ∀ written value, Literal written value → ¬ written <+: c :: rest) :
      Unclosed (c :: rest)

theorem closed_taken (c : Char) (content : List Char) (mark : Char) (back : List Char) :
    (c :: (content ++ mark :: back)).take (content.length + 2) = c :: (content ++ [mark]) := by
  rw [List.take_succ_cons, List.take_length_add_append]
  rfl

theorem first_lexeme_tick (rest : List Char) :
    firstLexeme? ('\x60' :: rest) = (firstLexeme?.cut rest).map fun name =>
      ⟨.identifier, name, name.length + 2⟩ := by
  simp only [firstLexeme?, beq_self_eq_true, if_true]
  cases firstLexeme?.cut rest with
  | none => rfl
  | some name => rfl

/-- The lexeme is a tile in front of the text. -/
def Tiles (text : List Char) (found : Lexeme) : Prop :=
  Tile text found.kind found.value (text.take found.length) ∧ found.length ≤ text.length

/-- What a text is read as that starts with no quote. -/
theorem first_lexeme_plain {c : Char} (tick : c ≠ '\x60') (noQuote : ¬ IsQuote c)
    (rest : List Char) :
    firstLexeme? (c :: rest) =
      match numberLength? (c :: rest) with
      | some n => some ⟨.number, (c :: rest).take n, n⟩
      | none =>
        if startsWord c then
          some ⟨.word, c :: rest.takeWhile continuesName,
            (c :: rest.takeWhile continuesName).length⟩
        else if c == '(' then some ⟨.opening, [c], 1⟩
        else if c == ')' then some ⟨.closing, [c], 1⟩
        else if c == ',' then some ⟨.comma, [c], 1⟩
        else some ⟨.symbol, [c], 1⟩ := by
  have unticked : ¬ (c == '\x60') = true := by simpa using tick
  have unquoted : ¬ (c == '\'' || c == '"') = true := by simpa [IsQuote] using noQuote
  exact (if_neg unticked).trans (if_neg unquoted)

/-- Whatever is no quote starts a token, if only a symbol. -/
theorem plain_lexeme_tiles {c : Char} (solid : isBlank c = false) (tick : c ≠ '\x60')
    (noQuote : ¬ IsQuote c) (rest : List Char) :
    ∃ found, firstLexeme? (c :: rest) = some found ∧ Tiles (c :: rest) found := by
  rw [first_lexeme_plain tick noQuote]
  cases number : numberLength? (c :: rest) with
  | some n =>
      exact ⟨_, rfl, .number (number_longest number), (number_taken number).2⟩
  | none =>
      have single : 1 ≤ (c :: rest).length := by simp
      dsimp only
      by_cases letter : startsWord c = true
      · refine ⟨_, if_pos letter, ?_⟩
        have longest := word_longest letter rest
        have taken := List.prefix_iff_eq_take.mp longest.leads
        rw [Tiles, ← taken]
        exact ⟨.word longest, longest.leads.length_le⟩
      rw [if_neg letter]
      by_cases opening : c = '('
      · subst opening
        exact ⟨_, rfl, .opening, single⟩
      by_cases closing : c = ')'
      · subst closing
        exact ⟨_, rfl, .closing, single⟩
      by_cases comma : c = ','
      · subst comma
        exact ⟨_, rfl, .comma, single⟩
      have unmarked : c ∉ ['(', ')', ',', '\x60', '\'', '"'] := by
        simpa [opening, closing, comma, tick, IsQuote] using noQuote
      have symbol : Symbol (c :: rest) c :=
        ⟨solid, unmarked, Bool.eq_false_iff.mpr letter, number_absent number⟩
      refine ⟨⟨.symbol, [c], 1⟩, ?_, .symbol symbol, single⟩
      simp [opening, closing, comma]

/-- What is read in front of a text is a tile of it. -/
theorem first_lexeme_tiles {c : Char} {rest : List Char} (solid : isBlank c = false)
    {found : Lexeme} (read : firstLexeme? (c :: rest) = some found) :
    Tiles (c :: rest) found := by
  by_cases tick : c = '\x60'
  · subst tick
    rw [first_lexeme_tick] at read
    obtain ⟨name, cut, rfl⟩ := Option.map_eq_some_iff.mp read
    obtain ⟨plain, back, rfl⟩ := cut_name_parts cut
    rw [Tiles, closed_taken]
    exact ⟨.identifier plain, by simp⟩
  by_cases mark : IsQuote c
  · rw [first_lexeme_quote mark] at read
    obtain ⟨content, closed, rfl⟩ := Option.map_eq_some_iff.mp read
    obtain ⟨value, back, quoted, rfl⟩ := quoted_of_content closed
    rw [Tiles, closed_taken, literal_value_quoted (quote_other mark).1 quoted]
    exact ⟨.string (.between mark quoted), by simp⟩
  obtain ⟨other, again, tiles⟩ := plain_lexeme_tiles solid tick mark rest
  rw [read] at again
  cases again
  exact tiles

theorem tick_unclosed_iff (rest : List Char) : Unclosed ('\x60' :: rest) ↔ '\x60' ∉ rest := by
  constructor
  · rintro (alone | ⟨mark, _⟩)
    · exact alone
    · exact absurd mark (by decide)
  · exact .backtick

theorem quote_unclosed_iff {quote : Char} (mark : IsQuote quote) (rest : List Char) :
    Unclosed (quote :: rest) ↔ literalContent? quote rest = none := by
  constructor
  · rintro (alone | ⟨_, never⟩)
    · exact absurd mark (by decide)
    · refine Option.eq_none_iff_forall_ne_some.mpr fun content read => ?_
      obtain ⟨value, back, quoted, rfl⟩ := quoted_of_content read
      exact never _ value (.between mark quoted) ⟨back, by simp⟩
  · intro none
    refine .quote mark fun written value literal leads => ?_
    cases literal with
    | between _ quoted =>
        obtain ⟨rfl, back, rfl⟩ := List.cons_prefix_cons.mp leads
        rw [List.append_assoc, List.singleton_append] at none
        -- Wherever the reading ends, it gives some content.
        rcases literal_content_cases (quote_other mark).1 quoted back with same | ⟨_, _, _, _, same⟩
        · rw [none] at same
          cases same
        · rw [none] at same
          cases same

/-- Nothing is read exactly in front of a quote that is not closed. -/
theorem first_lexeme_none_iff {c : Char} (solid : isBlank c = false) (rest : List Char) :
    firstLexeme? (c :: rest) = none ↔ Unclosed (c :: rest) := by
  by_cases tick : c = '\x60'
  · subst tick
    rw [first_lexeme_tick, Option.map_eq_none_iff, tick_unclosed_iff, firstLexeme?.cut]
    simp
  by_cases mark : IsQuote c
  · rw [first_lexeme_quote mark, Option.map_eq_none_iff, quote_unclosed_iff mark]
  obtain ⟨found, read, _⟩ := plain_lexeme_tiles solid tick mark rest
  rw [read]
  refine iff_of_false (by simp) ?_
  rintro (_ | _)
  · exact tick rfl
  · contradiction

end SchemaCompiler.Ddl
