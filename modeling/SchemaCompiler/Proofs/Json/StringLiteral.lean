import SchemaCompiler.Json.Reader
import SchemaCompiler.Json.Writer
import SchemaCompiler.Proofs.Text.WideText

/-!
String literals. Whatever a string holds, halves of surrogate pairs too, and whether characters
beyond ASCII are escaped or raw, the content that was quoted is read back from behind the opening
quote.
-/

namespace SchemaCompiler.Json

open Text

theorem hex_value_digit_char (d : Nat) (small : d < 16) :
    hexValue? d.digitChar = some d := by
  have all : ∀ d < 16, hexValue? d.digitChar = some d := by decide
  exact all d small

theorem hex_value_hex_digit (n : Nat) : hexValue? (hexDigit n) = some (n % 16) :=
  hex_value_digit_char (n % 16) (Nat.mod_lt n (by decide))

/-- The four digits of a code unit denote it, as long as something follows them. -/
theorem hex_unit_digits (unit : Nat) (small : unit < 0x10000) (tail : List Char)
    (more : tail ≠ []) :
    hexUnit? (hexDigit (unit / 4096) :: hexDigit (unit / 256) :: hexDigit (unit / 16) ::
      hexDigit unit :: tail) = some unit := by
  obtain ⟨c, rest, rfl⟩ := List.exists_cons_of_ne_nil more
  simp only [hexUnit?, hex_value_hex_digit, Option.bind_eq_bind, Option.bind_some]
  refine congrArg some ?_
  omega

theorem of_unit_char (c : Char) : Point.ofUnit c.toNat = .char c := by
  have valid : c.toNat < 0xD800 ∨ (0xDFFF < c.toNat ∧ c.toNat < 0x110000) := c.valid
  rw [Point.ofUnit, dif_neg (by omega), dif_neg (by omega), Char.ofNat_toNat]

theorem of_unit_high (offset : Fin 1024) : Point.ofUnit (0xD800 + offset) = .high offset := by
  rw [Point.ofUnit, dif_pos (by omega)]
  simp

theorem of_unit_low (offset : Fin 1024) : Point.ofUnit (0xDC00 + offset) = .low offset := by
  rw [Point.ofUnit, dif_neg (by omega), dif_pos (by omega)]
  simp

theorem read_points_skip (openLeft : Nat) (taken tail : List Char) :
    readPoints openLeft taken.length (taken ++ tail) = readPoints openLeft 0 tail := by
  induction taken with
  | nil => rfl
  | cons c rest ih => simpa [readPoints] using ih

/-- What the reader makes of some characters: points in front of those that it reads behind. -/
def ReadsAs (openLeft : Nat) (escape tail : List Char) (parts : List Point) : Prop :=
  readPoints openLeft 0 (escape ++ tail) =
    (readPoints openLeft 0 tail).map fun (points, left) => (parts ++ points, left)

section Reading

variable (openLeft : Nat)

theorem read_unit {unit : Nat} (small : unit < 0x10000) {tail : List Char} (more : tail ≠ []) :
    ReadsAs openLeft (unitEscape unit) tail [.ofUnit unit] := by
  have digits := hex_unit_digits unit small tail more
  have behind := read_points_skip openLeft ('u' :: (unitEscape unit).drop 2) tail
  simp only [unitEscape, List.drop_succ_cons, List.drop_zero, List.cons_append, List.nil_append,
    List.length_cons, List.length_nil] at behind
  rw [ReadsAs, unitEscape]
  simp only [List.cons_append, List.nil_append]
  rw [readPoints, if_neg (by decide), if_pos (by decide)]
  simp only [digits, behind]

theorem read_both {front back tail : List Char} {first second : List Point}
    (reads : ReadsAs openLeft front (back ++ tail) first)
    (behind : ReadsAs openLeft back tail second) :
    ReadsAs openLeft (front ++ back) tail (first ++ second) := by
  rw [ReadsAs, List.append_assoc, reads, behind]
  cases readPoints openLeft 0 tail with
  | ok found => simp [Except.map]
  | error e => rfl

/-- A character is read from its escape, or the halves of the pair that is written for it. -/
theorem read_unicode_escape (c : Char) {tail : List Char} (more : tail ≠ []) :
    ∃ parts, WideText.Spells parts (.char c) ∧
      ReadsAs openLeft (unicodeEscapeOf c) tail parts := by
  have valid : c.toNat < 0xD800 ∨ (0xDFFF < c.toNat ∧ c.toNat < 0x110000) := c.valid
  by_cases basic : c.toNat < 0x10000
  · have reads := read_unit openLeft basic more
    rw [of_unit_char] at reads
    rw [unicodeEscapeOf, if_pos basic]
    exact ⟨_, .itself _, reads⟩
  · let first : Fin 1024 := ⟨(c.toNat - 0x10000) / 0x400, by omega⟩
    let second : Fin 1024 := ⟨(c.toNat - 0x10000) % 0x400, by omega⟩
    have behind : unitEscape (0xDC00 + second) ++ tail ≠ [] := by simp [unitEscape]
    have lead := read_unit openLeft (by omega : 0xD800 + first.val < 0x10000) behind
    have trail := read_unit openLeft (by omega : 0xDC00 + second.val < 0x10000) more
    rw [of_unit_high] at lead
    rw [of_unit_low] at trail
    have code : 0x10000 + (c.toNat - 0x10000) / 0x400 * 0x400 + (c.toNat - 0x10000) % 0x400 =
        c.toNat := by omega
    have joined : Point.join first second = c :=
      (congrArg Char.ofNat code).trans (Char.ofNat_toNat c)
    have spells := WideText.Spells.pair first second
    rw [joined] at spells
    simp only [unicodeEscapeOf, if_neg basic]
    exact ⟨_, spells, read_both openLeft lead trail⟩

-- No short escape is marked by the letter of the long one, which is looked at first.
theorem read_short_escape {c mark : Char} (tail : List Char) (short : shortEscape? mark = some c) :
    ReadsAs openLeft ['\\', mark] tail [.char c] := by
  have notUnicode : mark ≠ 'u' := by
    rintro rfl
    simp [shortEscape?] at short
  rw [ReadsAs, List.cons_append, List.singleton_append, readPoints, if_neg (by decide),
    if_pos (by decide)]
  split
  · next missing =>
    rw [short] at missing
    cases missing
  · next decoded found =>
    rw [short] at found
    cases found
    rw [readPoints]
    rfl
  · exact notUnicode

/-- One escaped character in front of a literal's remaining content. -/
theorem read_escape_char (charset : Charset) (c : Char) {tail : List Char} (more : tail ≠ []) :
    ∃ parts, WideText.Spells parts (.char c) ∧
      ReadsAs openLeft (escapeChar charset c) tail parts := by
  have short {mark : Char} (named : shortEscape? mark = some c) :
      ∃ parts, WideText.Spells parts (.char c) ∧ ReadsAs openLeft ['\\', mark] tail parts :=
    ⟨_, .itself _, read_short_escape openLeft tail named⟩
  unfold escapeChar
  split
  · exact short rfl
  · exact short rfl
  · exact short rfl
  · exact short rfl
  · exact short rfl
  · exact short rfl
  · exact short rfl
  · next notQuote notSlash _ _ _ _ _ =>
    have quote : c ≠ '"' := notQuote
    have slash : c ≠ '\\' := notSlash
    split
    · exact read_unicode_escape openLeft c more
    · next printable =>
      split
      · exact read_unicode_escape openLeft c more
      · refine ⟨_, .itself _, ?_⟩
        simp [ReadsAs, readPoints, quote, slash, printable]

theorem read_escape_point (charset : Charset) (point : Point) {tail : List Char}
    (more : tail ≠ []) :
    ∃ parts, WideText.Spells parts point ∧
      ReadsAs openLeft (escapePoint charset point) tail parts := by
  cases point with
  | char c => exact read_escape_char openLeft charset c more
  | high offset =>
      have reads := read_unit openLeft (by omega : 0xD800 + offset.val < 0x10000) more
      rw [of_unit_high] at reads
      exact ⟨_, .itself _, reads⟩
  | low offset =>
      have reads := read_unit openLeft (by omega : 0xDC00 + offset.val < 0x10000) more
      rw [of_unit_low] at reads
      exact ⟨_, .itself _, reads⟩

theorem read_points_quoted (charset : Charset) (points : List Point) (tail : List Char) :
    ∃ parts, List.Forall₂ WideText.Spells parts points ∧
      readPoints openLeft 0 (points.flatMap (escapePoint charset) ++ '"' :: tail) =
        .ok (parts.flatten, tail) := by
  induction points with
  | nil => exact ⟨[], .nil, by simp [readPoints]⟩
  | cons point rest ih =>
      obtain ⟨others, spelled, read⟩ := ih
      have closed : rest.flatMap (escapePoint charset) ++ '"' :: tail ≠ [] := by simp
      obtain ⟨parts, spells, reads⟩ := read_escape_point openLeft charset point closed
      refine ⟨parts :: others, .cons spells spelled, ?_⟩
      rw [List.flatMap_cons, List.append_assoc, reads, read]
      rfl

/-- A quoted string is read back up to its closing quote. -/
theorem read_string_quoted (charset : Charset) (content : WideText) (tail : List Char) :
    readString openLeft (content.points.flatMap (escapePoint charset) ++ '"' :: tail) =
      .ok (content, tail) := by
  obtain ⟨parts, spelled, read⟩ := read_points_quoted openLeft charset content.points tail
  have joined := WideText.pair_up_spelled spelled content.points_paired
  rw [readString, read]
  exact congrArg (fun text => Except.ok (text, tail)) (WideText.of_points_eq joined)

end Reading

/-- A string is escaped character by character. -/
theorem quote_text (charset : Charset) (text : String) :
    quote charset text = '"' :: text.toList.flatMap (escapeChar charset) ++ ['"'] := by
  rw [quote, WideText.points, List.flatMap_map]
  rfl

theorem quoted_chars (text : String) :
    (quoted text).toList = '"' :: text.toList.flatMap (escapeChar .ascii) ++ ['"'] := by
  rw [quoted, String.toList_ofList, quote_text]

/-! What is written -/

/-- Printable and in ASCII. -/
def IsPlain (c : Char) : Prop := 32 ≤ c.toNat ∧ c.toNat < 127

instance (c : Char) : Decidable (IsPlain c) := inferInstanceAs (Decidable (_ ∧ _))

theorem unit_escape_plain (unit : Nat) : ∀ d ∈ unitEscape unit, IsPlain d := by
  have digit (n : Nat) : IsPlain (hexDigit n) := by
    have all : ∀ d < 16, IsPlain (Nat.digitChar d) := by decide
    exact all (n % 16) (Nat.mod_lt n (by decide))
  have mark : IsPlain '\\' ∧ IsPlain 'u' := by decide
  simp [unitEscape, digit, mark]

theorem unicode_escape_plain (c : Char) : ∀ d ∈ unicodeEscapeOf c, IsPlain d := by
  intro d member
  rw [unicodeEscapeOf] at member
  split at member
  · exact unit_escape_plain _ d member
  · rcases List.mem_append.mp member with high | low
    · exact unit_escape_plain _ d high
    · exact unit_escape_plain _ d low

theorem short_escape_plain {mark : Char} (plain : IsPlain mark) :
    ∀ d ∈ ['\\', mark], IsPlain d := by
  have slash : IsPlain '\\' := by decide
  simp [slash, plain]

/-- Whatever a character is, its escape shows. -/
theorem escape_plain (c : Char) : ∀ d ∈ escapeChar .ascii c, IsPlain d := by
  unfold escapeChar
  split
  · exact short_escape_plain (by decide)
  · exact short_escape_plain (by decide)
  · exact short_escape_plain (by decide)
  · exact short_escape_plain (by decide)
  · exact short_escape_plain (by decide)
  · exact short_escape_plain (by decide)
  · exact short_escape_plain (by decide)
  · split
    · exact unicode_escape_plain c
    · next shown =>
      split
      · exact unicode_escape_plain c
      · next raw =>
        have high : ¬ 127 ≤ c.toNat := by simpa using raw
        have plain : IsPlain c := ⟨by omega, by omega⟩
        simp [plain]

theorem escape_point_plain (point : Point) : ∀ d ∈ escapePoint .ascii point, IsPlain d := by
  cases point with
  | char c => exact escape_plain c
  | high offset => exact unit_escape_plain _
  | low offset => exact unit_escape_plain _

theorem quote_plain (text : WideText) : ∀ d ∈ quote .ascii text, IsPlain d := by
  intro d member
  simp only [quote, List.mem_cons, List.mem_append, List.mem_flatMap, List.not_mem_nil,
    or_false, List.cons_append] at member
  rcases member with rfl | ⟨point, _, escaped⟩ | rfl
  · decide
  · exact escape_point_plain point d escaped
  · decide

end SchemaCompiler.Json
