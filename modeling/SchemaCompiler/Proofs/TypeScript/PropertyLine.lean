import SchemaCompiler.Proofs.Json.StringLiteral
import SchemaCompiler.TypeScript

/-!
Lines of an interface. Whatever the title of a field, and whatever its type, a line tells which
field it is of and whether it may be left out.
-/

namespace SchemaCompiler.TypeScript

open Text

/-- The characters of bare names. -/
def isNameChar (c : Char) : Bool := isWordChar c || c == '$'

/-- A bare name, or the content of a string, and the text behind it. -/
def readName (text : List Char) : WideText × List Char :=
  match text with
  | '"' :: rest => (Json.readString 0 rest).toOption.getD (.plain "", rest)
  | _ => (.plain (String.ofList (text.takeWhile isNameChar)), text.dropWhile isNameChar)

theorem ascii_letter_below {c : Char} (letter : isAsciiLetter c = true) : c.toNat < 128 := by
  simp only [isAsciiLetter, isAsciiUpper, isAsciiLower, Bool.or_eq_true, Bool.and_eq_true,
    decide_eq_true_eq, Char.le_def, UInt32.le_iff_toNat_le] at letter
  change c.val.toNat < 128
  rcases letter with ⟨_, high⟩ | ⟨_, high⟩
  · exact Nat.lt_of_le_of_lt high (by decide)
  · exact Nat.lt_of_le_of_lt high (by decide)

theorem letter_in_word {c : Char} (letter : isAsciiLetter c = true) : isWordChar c = true := by
  simp [isWordChar, isAlphanumeric, ascii_letter_below letter, isAsciiAlphanumeric, letter]

theorem plain_name_chars {name : String} (plain : isPlainName name = true) :
    ∀ c ∈ name.toList, isNameChar c = true := by
  rw [isPlainName] at plain
  split at plain
  · cases plain
  · next first rest spelled =>
    obtain ⟨start, later⟩ := (Bool.and_eq_true _ _).mp plain
    rw [spelled]
    intro c member
    rcases List.mem_cons.mp member with rfl | among
    · simp only [Bool.or_eq_true] at start
      rcases start with (letter | score) | dollar
      · simp [isNameChar, letter_in_word letter]
      · simp [isNameChar, isWordChar, score]
      · simp [isNameChar, dollar]
    · exact List.all_eq_true.mp later c among

theorem read_bare_name {name : String} (solid : ∀ c ∈ name.toList, isNameChar c = true) {c : Char}
    (ends : isNameChar c = false) (tail : List Char) (apart : c ≠ '"') :
    readName (name.toList ++ c :: tail) = (.plain name, c :: tail) := by
  have bare : readName (name.toList ++ c :: tail) =
      (.plain (String.ofList ((name.toList ++ c :: tail).takeWhile isNameChar)),
        (name.toList ++ c :: tail).dropWhile isNameChar) := by
    rw [readName]
    -- Neither a bare name nor what follows it starts with a quote.
    intro rest starts
    cases spelled : name.toList with
    | nil =>
        rw [spelled] at starts
        exact apart (List.cons.inj starts).1
    | cons first more =>
        rw [spelled] at starts
        have quote := solid first (by simp [spelled])
        rw [(List.cons.inj starts).1] at quote
        exact absurd quote (by decide)
  rw [bare, List.takeWhile_append_of_pos solid, List.dropWhile_append_of_pos solid]
  simp [ends]

/-- A name is read back in front of any character that cannot belong to it. -/
theorem read_quote_name (name : WideText) {c : Char} (ends : isNameChar c = false)
    (apart : c ≠ '"') (tail : List Char) :
    readName ((quoteName name).toList ++ c :: tail) = (name, c :: tail) := by
  have literal (text : WideText) :
      readName ((Json.quoted text).toList ++ c :: tail) = (text, c :: tail) := by
    have content := Json.read_string_quoted 0 .ascii text (c :: tail)
    simp [Json.quoted, Json.quote, readName, content, Except.toOption]
  cases name with
  | plain text =>
      rw [quoteName]
      split
      · next plain => exact read_bare_name (plain_name_chars plain) ends tail apart
      · exact literal text
  | broken text => exact literal (.broken text)

/-- Two names that are written alike are the same. -/
theorem quote_name_inj {title other : WideText} (same : quoteName title = quoteName other) :
    title = other := by
  have read := read_quote_name title (c := ':') (by decide) (by decide) []
  rw [same, read_quote_name other (c := ':') (by decide) (by decide) [], Prod.mk.injEq] at read
  exact read.1.symm

end SchemaCompiler.TypeScript
