import SchemaCompiler.Proofs.Json.StringLiteral

/-!
Double-quoted literals in the source of the object model: where one ends, and the text that it
denotes. Escapes are those of the source, which are not those of JSON.
-/

namespace SchemaCompiler.Model

open Text

/-- The content up to the closing quote and what stands behind that. Behind a backslash no quote
closes the literal. -/
def literalContent? : Bool → List Char → Option (List Char × List Char)
  | _, [] => none
  | true, c :: rest => (literalContent? false rest).map fun (content, left) => (c :: content, left)
  | false, c :: rest =>
    if c == '"' then some ([], rest)
    else (literalContent? (c == '\\') rest).map fun (content, left) => (c :: content, left)

def letterEscape? : Char → Option Char
  | '\\' => some '\\'
  | '\'' => some '\''
  | '"' => some '"'
  | 'a' => some '\x07'
  | 'b' => some '\x08'
  | 'f' => some '\x0c'
  | 'n' => some '\n'
  | 'r' => some '\r'
  | 't' => some '\t'
  | 'v' => some '\x0b'
  | _ => none

/-- How many hexadecimal digits follow a letter. -/
def hexWidth? : Char → Option Nat
  | 'x' => some 2
  | 'u' => some 4
  | 'U' => some 8
  | _ => none

def hexNumber? (digits : List Char) : Option Nat :=
  digits.foldlM (fun number c => (hexValue? c).map (number * 16 + ·)) 0

def isOctal (c : Char) : Bool := '0' ≤ c && c ≤ '7'

def octalNumber (digits : List Char) : Nat :=
  digits.foldl (fun number c => number * 8 + (c.toNat - 48)) 0

/-- Half of a surrogate pair is no character, and belongs to no text. -/
def character? (code : Nat) : Option Char :=
  if code.isValidChar then some (Char.ofNat code) else none

/-- What the characters behind a backslash denote, and how many of them belong to the escape. A
broken line is joined, and a backslash that starts no escape stands for itself. Characters are not
looked up by name: such an escape is longer than what it denotes. -/
def escape? : List Char → Option (List Char × Nat)
  | [] => none
  | c :: rest =>
    match hexWidth? c with
    | some width =>
      if rest.length < width then none
      else do return ([← character? (← hexNumber? (rest.take width))], width + 1)
    | none =>
      match letterEscape? c with
      | some denoted => some ([denoted], 1)
      | none =>
        let octal := ((c :: rest).take 3).takeWhile isOctal
        if c == 'N' then none
        else if c == '\n' then some ([], 1)
        else if c == '\r' then some ([], if rest.head? == some '\n' then 2 else 1)
        else if octal.isEmpty then some (['\\'], 0)
        else do return ([← character? (octalNumber octal)], octal.length)

/-- What the content of a literal denotes, behind so many characters of an escape. No line ends in
a literal. -/
def denoted? : Nat → List Char → Option (List Char)
  | _, [] => some []
  | skip + 1, _ :: rest => denoted? skip rest
  | 0, c :: rest =>
    if c == '\\' then
      (escape? rest).bind fun (chars, taken) => (denoted? taken rest).map (chars ++ ·)
    else if c == '\n' || c == '\r' || c == '\x00' then none
    else (denoted? 0 rest).map (c :: ·)

/-- The text that a literal denotes, when it is one from end to end. -/
def literal? : List Char → Option String
  | '"' :: rest =>
    match literalContent? false rest with
    | some (content, []) => (denoted? 0 content).map String.ofList
    | _ => none
  | _ => none

/-! Where a literal ends -/

theorem content_plain {c : Char} (quote : c ≠ '"') (slash : c ≠ '\\') (rest : List Char) :
    literalContent? false (c :: rest) =
      (literalContent? false rest).map fun (content, left) => (c :: content, left) := by
  have notEscape : (c == '\\') = false := by simpa using slash
  simp [literalContent?, quote, notEscape]

theorem content_escaped (c : Char) (rest : List Char) :
    literalContent? false ('\\' :: c :: rest) =
      (literalContent? false rest).map fun (content, left) => ('\\' :: c :: content, left) := by
  simp [literalContent?, Function.comp_def]

/-- A text whose characters all belong to the literal in which it stands. -/
def Inside (text : List Char) : Prop :=
  ∀ rest, literalContent? false (text ++ rest) =
    (literalContent? false rest).map fun (content, left) => (text ++ content, left)

theorem inside_nil : Inside [] := by
  intro rest
  simp

theorem inside_append {front back : List Char} (first : Inside front) (second : Inside back) :
    Inside (front ++ back) := by
  intro rest
  rw [List.append_assoc, first, second, Option.map_map]
  simp [Function.comp_def]

theorem inside_plain {text : List Char} (plain : ∀ c ∈ text, c ≠ '"' ∧ c ≠ '\\') :
    Inside text := by
  induction text with
  | nil => exact inside_nil
  | cons c more ih =>
      have single : Inside [c] := content_plain (plain c (by simp)).1 (plain c (by simp)).2
      exact inside_append single (ih fun d member => plain d (List.mem_cons_of_mem c member))

theorem hex_digit_plain (n : Nat) : Json.hexDigit n ≠ '"' ∧ Json.hexDigit n ≠ '\\' := by
  have all : ∀ d < 16, d.digitChar ≠ '"' ∧ d.digitChar ≠ '\\' := by decide
  exact all (n % 16) (Nat.mod_lt n (by decide))

theorem inside_unit_escape (unit : Nat) : Inside (Json.unitEscape unit) := by
  have digits : Inside [Json.hexDigit (unit / 4096), Json.hexDigit (unit / 256),
      Json.hexDigit (unit / 16), Json.hexDigit unit] := by
    refine inside_plain ?_
    simp [hex_digit_plain]
  have mark : Inside ['\\', 'u'] := content_escaped 'u'
  exact inside_append mark digits

theorem inside_escape_char (charset : Json.Charset) (c : Char) :
    Inside (Json.escapeChar charset c) := by
  have long : Inside (Json.unicodeEscapeOf c) := by
    simp only [Json.unicodeEscapeOf]
    split
    · exact inside_unit_escape c.toNat
    · exact inside_append (inside_unit_escape _) (inside_unit_escape _)
  unfold Json.escapeChar
  split
  case h_8 notQuote notSlash _ _ _ _ _ =>
      split
      · exact long
      · split
        · exact long
        · exact content_plain notQuote notSlash
  all_goals exact content_escaped _

theorem inside_escaped (charset : Json.Charset) (text : List Char) :
    Inside (text.flatMap (Json.escapeChar charset)) := by
  induction text with
  | nil => exact inside_nil
  | cons c rest ih => exact inside_append (inside_escape_char charset c) ih

theorem content_inside {text : List Char} (inside : Inside text) (rest : List Char) :
    literalContent? false (text ++ '"' :: rest) = some (text, rest) := by
  rw [inside]
  simp [literalContent?]

/-! What a literal denotes -/

theorem literal_inside {content : List Char} (inside : Inside content) :
    literal? ('"' :: content ++ ['"']) = (denoted? 0 content).map String.ofList := by
  simp [literal?, content_inside inside []]

/-- A text without quotes, backslashes and line ends may stand in a literal as it is. -/
theorem literal_plain {text : String}
    (plain : ∀ c ∈ text.toList, c ∉ ['"', '\\', '\n', '\r', '\x00']) :
    literal? ('"' :: text.toList ++ ['"']) = some text := by
  have bare : denoted? 0 text.toList = some text.toList := by
    generalize text.toList = chars at plain
    induction chars with
    | nil => rfl
    | cons c rest ih =>
        have head := plain c (by simp)
        have tail := ih fun d member => plain d (List.mem_cons_of_mem c member)
        simp only [List.mem_cons, List.not_mem_nil, or_false, not_or] at head
        simp [denoted?, head, tail]
  rw [literal_inside, bare]
  · simp
  · refine inside_plain fun c member => ?_
    have apart := plain c member
    simp only [List.mem_cons, List.not_mem_nil, or_false, not_or] at apart
    exact ⟨apart.1, apart.2.1⟩

theorem denoted_letter {mark c : Char} (letter : letterEscape? mark = some c) (rest : List Char) :
    denoted? 0 ('\\' :: mark :: rest) = (denoted? 0 rest).map (c :: ·) := by
  have width : hexWidth? mark = none := by
    unfold hexWidth?
    split <;> first | rfl | cases letter
  simp [denoted?, escape?, width, letter]

theorem hex_number_unit {unit : Nat} (small : unit < 0x10000) :
    hexNumber? [Json.hexDigit (unit / 4096), Json.hexDigit (unit / 256),
      Json.hexDigit (unit / 16), Json.hexDigit unit] = some unit := by
  simp only [hexNumber?, List.foldlM_cons, List.foldlM_nil, Json.hex_value_hex_digit,
    Option.map_some, Option.bind_eq_bind, Option.bind_some, Option.pure_def, Option.some.injEq]
  omega

theorem character_to_nat (c : Char) : character? c.toNat = some c := by
  have valid : c.toNat.isValidChar := c.valid
  simp [character?, valid]

theorem denoted_unit_escape {unit : Nat} (small : unit < 0x10000) (rest : List Char) :
    denoted? 0 (Json.unitEscape unit ++ rest) =
      (character? unit).bind fun c => (denoted? 0 rest).map (c :: ·) := by
  have enough : ¬ rest.length + 1 + 1 + 1 + 1 < 4 := by omega
  cases character : character? unit with
  | none => simp [Json.unitEscape, denoted?, escape?, hexWidth?, hex_number_unit small, character]
  | some c =>
      simp [Json.unitEscape, denoted?, escape?, hexWidth?, hex_number_unit small, character, enough]

/-- An escape of JSON denotes its character here too, unless that needs two of them. -/
theorem denoted_escape_char {c : Char} (basic : c.toNat < 0x10000) (rest : List Char) :
    denoted? 0 (Json.escapeChar .ascii c ++ rest) = (denoted? 0 rest).map (c :: ·) := by
  have long : denoted? 0 (Json.unicodeEscapeOf c ++ rest) = (denoted? 0 rest).map (c :: ·) := by
    simpa [Json.unicodeEscapeOf, basic, character_to_nat] using denoted_unit_escape basic rest
  unfold Json.escapeChar
  split
  case h_8 notQuote notSlash _ _ _ _ _ =>
      split
      · exact long
      · next printable =>
        have slash : c ≠ '\\' := notSlash
        have apart : c ≠ '\n' ∧ c ≠ '\r' ∧ c ≠ '\x00' := by
          refine ⟨?_, ?_, ?_⟩ <;> rintro rfl <;> exact printable (by decide)
        split
        · exact long
        · simp [denoted?, slash, apart]
  all_goals exact denoted_letter rfl rest

theorem literal_quoted {text : String} (basic : ∀ c ∈ text.toList, c.toNat < 0x10000) :
    literal? (Json.quoted text).toList = some text := by
  have bare : denoted? 0 (text.toList.flatMap (Json.escapeChar .ascii)) = some text.toList := by
    generalize text.toList = chars at basic
    induction chars with
    | nil => rfl
    | cons c rest ih =>
        have tail := ih fun d member => basic d (List.mem_cons_of_mem c member)
        rw [List.flatMap_cons, denoted_escape_char (basic c (by simp)), tail]
        rfl
  have whole := literal_inside (inside_escaped .ascii text.toList)
  rw [bare] at whole
  rw [Json.quoted_chars]
  simpa using whole

end SchemaCompiler.Model
