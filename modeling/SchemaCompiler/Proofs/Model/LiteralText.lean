import SchemaCompiler.Model.Source
import SchemaCompiler.Proofs.Model.Literal

/-!
Texts that a literal denotes. A text that stands between double quotes as it is is denoted when
nothing in it ends the literal, breaks the line or starts an escape; one that is escaped as JSON
escapes it, when each character is one unit there.
-/

namespace SchemaCompiler.Model

open Text

/-- What makes a backslash an escape. Behind any other character it stands for itself. -/
def escapeMarks : List Char :=
  ['\\', '\'', '"', 'a', 'b', 'f', 'n', 'r', 't', 'v', 'x', 'u', 'U', 'N',
    '0', '1', '2', '3', '4', '5', '6', '7']

/-- May stand between double quotes as it is. -/
structure Verbatim (text : List Char) : Prop where
  unbroken : ∀ c ∈ text, c ∉ ['"', '\n', '\r', '\x00']
  unescaped : ∀ back, '\\' :: back <:+ text → ∃ c ∈ back.head?, c ∉ escapeMarks

theorem verbatim_cons_iff (c : Char) (rest : List Char) :
    Verbatim (c :: rest) ↔ c ∉ ['"', '\n', '\r', '\x00'] ∧
      (c = '\\' → ∃ d ∈ rest.head?, d ∉ escapeMarks) ∧ Verbatim rest := by
  constructor
  · rintro ⟨unbroken, unescaped⟩
    refine ⟨unbroken c (by simp), ?_, ?_, ?_⟩
    · rintro rfl
      exact unescaped rest (List.suffix_refl _)
    · exact fun d member => unbroken d (List.mem_cons_of_mem c member)
    · exact fun back behind => unescaped back (behind.trans (List.suffix_cons c rest))
  · rintro ⟨head, slash, unbroken, unescaped⟩
    refine ⟨List.forall_mem_cons.mpr ⟨head, unbroken⟩, fun back behind => ?_⟩
    rcases List.suffix_cons_iff.mp behind with whole | later
    · obtain ⟨rfl, rfl⟩ := List.cons.inj whole
      exact slash rfl
    · exact unescaped back later

instance decidablePlain : (next : Option Char) → Decidable (∃ d ∈ next, d ∉ escapeMarks)
  | none => isFalse (by simp)
  | some d => decidable_of_iff (d ∉ escapeMarks) (by simp)

instance decidableVerbatim : (text : List Char) → Decidable (Verbatim text)
  | [] => isTrue ⟨by simp, fun back behind => by cases List.eq_nil_of_suffix_nil behind⟩
  | c :: rest =>
    have := decidablePlain rest.head?
    have := decidableVerbatim rest
    decidable_of_iff _ (verbatim_cons_iff c rest).symm

/-! Escapes -/

theorem octal_mark {c : Char} (octal : isOctal c = true) : c ∈ escapeMarks := by
  have range : 48 ≤ c.toNat ∧ c.toNat ≤ 55 := by
    simpa [isOctal, Char.le_def, UInt32.le_iff_toNat_le] using octal
  have digits : ∀ k < 8, Char.ofNat (48 + k) ∈ escapeMarks := by decide
  have listed := digits (c.toNat - 48) (by omega)
  rwa [Nat.add_sub_cancel' range.1, Char.ofNat_toNat] at listed

theorem escape_marks_start : ∀ c ∈ escapeMarks, (hexWidth? c).isSome = true ∨
    (letterEscape? c).isSome = true ∨ c = 'N' ∨ isOctal c = true := by
  have all : escapeMarks.all (fun c => (hexWidth? c).isSome || ((letterEscape? c).isSome ||
      (c == 'N' || isOctal c))) = true := by decide
  intro c member
  simpa using List.all_eq_true.mp all c member

theorem width_mark {c : Char} {width : Nat} (hex : hexWidth? c = some width) :
    c ∈ escapeMarks := by
  unfold hexWidth? at hex
  split at hex <;> first | decide | cases hex

theorem letter_mark {c d : Char} (letter : letterEscape? c = some d) : c ∈ escapeMarks := by
  unfold letterEscape? at letter
  split at letter <;> first | decide | cases letter

/-- A backslash that starts no escape stands for itself. -/
theorem escape_plain {c : Char} (plain : c ∉ escapeMarks) (line : c ≠ '\n') (feed : c ≠ '\r')
    (rest : List Char) : escape? (c :: rest) = some (['\\'], 0) := by
  have width : hexWidth? c = none :=
    Option.eq_none_iff_forall_ne_some.mpr fun _ hex => plain (width_mark hex)
  have letter : letterEscape? c = none :=
    Option.eq_none_iff_forall_ne_some.mpr fun _ letter => plain (letter_mark letter)
  have octal : isOctal c = false := Bool.eq_false_iff.mpr fun octal => plain (octal_mark octal)
  have name : c ≠ 'N' := by
    rintro rfl
    exact plain (by decide)
  simp [escape?, width, letter, octal, name, line, feed]

/-- An escape denotes one character at most, and takes one at least. -/
theorem escape_taken {rest chars : List Char} {taken : Nat}
    (escape : escape? rest = some (chars, taken)) : chars.length ≤ 1 ∧
      (taken = 0 → ∃ c ∈ rest.head?, c ∉ escapeMarks) := by
  unfold escape? at escape
  split at escape
  · cases escape
  · next c more =>
    split at escape
    · split at escape
      · cases escape
      · simp only [Option.bind_eq_bind, Option.bind_eq_some_iff] at escape
        obtain ⟨_, _, d, _, same⟩ := escape
        cases same
        simp
    · next width =>
      split at escape
      · cases escape
        simp
      · next letter =>
        dsimp only at escape
        split at escape
        · cases escape
        · next name =>
          split at escape
          · cases escape
            simp
          · split at escape
            · cases escape
              refine ⟨Nat.zero_le 1, fun none => ?_⟩
              split at none <;> cases none
            · split at escape
              · next octal =>
                cases escape
                refine ⟨Nat.le_refl 1, fun _ => ⟨c, rfl, fun mark => ?_⟩⟩
                have digit : isOctal c = false := by
                  refine Bool.eq_false_iff.mpr fun first => ?_
                  simp [first] at octal
                rcases escape_marks_start c mark with hex | known | same | digits
                · rw [width] at hex
                  cases hex
                · rw [letter] at known
                  cases known
                · exact name (by simpa using same)
                · rw [digit] at digits
                  cases digits
              · next octal =>
                simp only [Option.bind_eq_bind, Option.bind_eq_some_iff] at escape
                obtain ⟨d, _, same⟩ := escape
                cases same
                refine ⟨Nat.le_refl 1, fun none => absurd ?_ octal⟩
                rw [List.isEmpty_iff]
                exact List.eq_nil_of_length_eq_zero none

/-! Texts as they stand -/

theorem denoted_verbatim {text : List Char} (verbatim : Verbatim text) :
    denoted? 0 text = some text := by
  induction text with
  | nil => rfl
  | cons c rest ih =>
      obtain ⟨head, slash, later⟩ := (verbatim_cons_iff c rest).mp verbatim
      have tail := ih later
      by_cases escape : c = '\\'
      · obtain ⟨d, first, plain⟩ := slash escape
        obtain ⟨more, rfl⟩ := List.head?_eq_some_iff.mp first
        have apart := later.unbroken d (by simp)
        simp only [List.mem_cons, List.not_mem_nil, or_false, not_or] at apart
        rw [escape, denoted?, escape_plain plain apart.2.1 apart.2.2.1]
        simp [tail]
      · simp only [List.mem_cons, List.not_mem_nil, or_false, not_or] at head
        simp [denoted?, escape, head, tail]

theorem content_behind {c : Char} (quote : c ≠ '"') (slash : c ≠ '\\') (rest : List Char) :
    literalContent? true (c :: rest) = literalContent? false (c :: rest) := by
  rw [content_plain quote slash, literalContent?]

theorem inside_verbatim {text : List Char} (verbatim : Verbatim text) : Inside text := by
  induction text with
  | nil => exact inside_nil
  | cons c rest ih =>
      obtain ⟨head, slash, later⟩ := (verbatim_cons_iff c rest).mp verbatim
      have tail := ih later
      by_cases escape : c = '\\'
      · -- The next character is read alike behind a backslash and elsewhere.
        obtain ⟨d, first, plain⟩ := slash escape
        obtain ⟨more, rfl⟩ := List.head?_eq_some_iff.mp first
        have quote : d ≠ '"' := by
          rintro rfl
          exact plain (by decide)
        have other : d ≠ '\\' := by
          rintro rfl
          exact plain (by decide)
        intro behind
        have read := (content_behind quote other (more ++ behind)).trans (tail behind)
        rw [escape, List.cons_append, literalContent?, List.cons_append]
        simp [read, Function.comp_def]
      · simp only [List.mem_cons, List.not_mem_nil, or_false, not_or] at head
        have single : Inside [c] := content_plain head.1 escape
        exact inside_append single tail

/-- What a literal denotes is no longer than its content. -/
theorem denoted_length {skip : Nat} {text out : List Char}
    (denoted : denoted? skip text = some out) : out.length ≤ text.length - skip := by
  induction text generalizing skip out with
  | nil =>
      rw [denoted?] at denoted
      cases denoted
      simp
  | cons c rest ih =>
      cases skip with
      | succ skip =>
          have shorter := ih denoted
          simpa using shorter
      | zero =>
          rw [denoted?] at denoted
          split at denoted
          · obtain ⟨⟨chars, taken⟩, escape, later⟩ := Option.bind_eq_some_iff.mp denoted
            obtain ⟨more, behind, same⟩ := Option.map_eq_some_iff.mp later
            cases same
            have one := (escape_taken escape).1
            have shorter := ih behind
            simp only [List.length_append, List.length_cons]
            omega
          · split at denoted
            · cases denoted
            · obtain ⟨more, behind, same⟩ := Option.map_eq_some_iff.mp denoted
              cases same
              have shorter := ih behind
              simpa using shorter

theorem content_parts {escaped : Bool} {text content left : List Char}
    (found : literalContent? escaped text = some (content, left)) :
    text = content ++ '"' :: left := by
  induction text generalizing escaped content with
  | nil => cases escaped <;> cases found
  | cons c rest ih =>
      cases escaped with
      | true =>
          obtain ⟨⟨more, behind⟩, later, same⟩ := Option.map_eq_some_iff.mp found
          cases same
          rw [ih later]
          rfl
      | false =>
          rw [literalContent?] at found
          split at found
          · next quote =>
            cases found
            rw [beq_iff_eq.mp quote]
            rfl
          · obtain ⟨⟨more, behind⟩, later, same⟩ := Option.map_eq_some_iff.mp found
            cases same
            rw [ih later]
            rfl

/-- A quote inside a literal stands behind a backslash. -/
theorem content_quote {escaped : Bool} {text content left back : List Char}
    (found : literalContent? escaped text = some (content, left))
    (inner : '"' :: back <:+ content) :
    (escaped = true ∧ content = '"' :: back) ∨ '\\' :: '"' :: back <:+ content := by
  induction text generalizing escaped content with
  | nil => cases escaped <;> cases found
  | cons c rest ih =>
      cases escaped with
      | true =>
          obtain ⟨⟨more, behind⟩, later, same⟩ := Option.map_eq_some_iff.mp found
          cases same
          rcases List.suffix_cons_iff.mp inner with here | further
          · exact .inl ⟨rfl, here.symm⟩
          · rcases ih later further with ⟨never, _⟩ | deeper
            · cases never
            · exact .inr (deeper.trans (List.suffix_cons c more))
      | false =>
          right
          rw [literalContent?] at found
          split at found
          · cases found
            cases List.eq_nil_of_suffix_nil inner
          · next other =>
            obtain ⟨⟨more, behind⟩, later, same⟩ := Option.map_eq_some_iff.mp found
            cases same
            rcases List.suffix_cons_iff.mp inner with here | further
            · exact absurd (beq_iff_eq.mpr (List.cons.inj here).1.symm) other
            · rcases ih later further with ⟨slash, same⟩ | deeper
              · obtain rfl := beq_iff_eq.mp slash
                exact same ▸ List.suffix_refl _
              · exact deeper.trans (List.suffix_cons c more)

/-- A content that denotes as much as it has characters has no escape and no broken line. -/
theorem denoted_full {text out : List Char} (denoted : denoted? 0 text = some out)
    (full : text.length ≤ out.length) :
    (∀ c ∈ text, c ∉ ['\n', '\r', '\x00']) ∧
      ∀ back, '\\' :: back <:+ text → ∃ c ∈ back.head?, c ∉ escapeMarks := by
  induction text generalizing out with
  | nil => exact ⟨by simp, fun back behind => by cases List.eq_nil_of_suffix_nil behind⟩
  | cons c rest ih =>
      rw [denoted?] at denoted
      split at denoted
      · next slash =>
        obtain ⟨⟨chars, taken⟩, escape, later⟩ := Option.bind_eq_some_iff.mp denoted
        obtain ⟨more, behind, same⟩ := Option.map_eq_some_iff.mp later
        cases same
        obtain ⟨one, plain⟩ := escape_taken escape
        have shorter := denoted_length behind
        have some : 0 < rest.length := by
          refine List.length_pos_iff.mpr ?_
          rintro rfl
          cases escape
        simp only [List.length_append, List.length_cons] at full
        have none : taken = 0 := by omega
        subst none
        have next := plain rfl
        obtain ⟨unbroken, unescaped⟩ := ih behind (by omega)
        refine ⟨List.forall_mem_cons.mpr ⟨?_, unbroken⟩, fun back suffix => ?_⟩
        · rw [beq_iff_eq.mp slash]
          decide
        · rcases List.suffix_cons_iff.mp suffix with here | further
          · rw [(List.cons.inj here).2]
            exact next
          · exact unescaped back further
      · next slash =>
        split at denoted
        · cases denoted
        · next line =>
          obtain ⟨more, behind, same⟩ := Option.map_eq_some_iff.mp denoted
          cases same
          simp only [List.length_cons, Nat.add_le_add_iff_right] at full
          obtain ⟨unbroken, unescaped⟩ := ih behind full
          refine ⟨List.forall_mem_cons.mpr ⟨?_, unbroken⟩, fun back suffix => ?_⟩
          · simpa [or_assoc] using line
          · rcases List.suffix_cons_iff.mp suffix with here | further
            · exact absurd (beq_iff_eq.mpr (List.cons.inj here).1.symm) slash
            · exact unescaped back further

theorem double_quoted_text (text : String) :
    (doubleQuoted text).toList = '"' :: text.toList ++ ['"'] := by
  simp [doubleQuoted]

/-- A text between double quotes is the one denoted when it may stand there as it is. -/
theorem literal_double_quoted_iff (text : String) :
    literal? (doubleQuoted text).toList = some text ↔ Verbatim text.toList := by
  rw [double_quoted_text]
  constructor
  · intro literal
    rw [List.cons_append, literal?] at literal
    split at literal
    · next content found =>
      obtain ⟨out, denoted, same⟩ := Option.map_eq_some_iff.mp literal
      have whole : text.toList = content := List.append_cancel_right (content_parts found)
      rw [← whole] at found denoted
      have full : text.toList = out := by rw [← same, String.toList_ofList]
      obtain ⟨unbroken, unescaped⟩ :=
        denoted_full denoted (Nat.le_of_eq (congrArg List.length full))
      refine ⟨fun c member listed => ?_, unescaped⟩
      rcases List.mem_cons.mp listed with rfl | line
      · obtain ⟨front, back, split⟩ := List.append_of_mem member
        have inner : '"' :: back <:+ text.toList := ⟨front, split.symm⟩
        rcases content_quote found inner with ⟨never, _⟩ | behind
        · cases never
        · obtain ⟨d, same, plain⟩ := unescaped _ behind
          cases same
          exact plain (by decide)
      · exact unbroken c member line
    · cases literal
  · intro verbatim
    rw [literal_inside (inside_verbatim verbatim), denoted_verbatim verbatim]
    simp

/-! Texts escaped as in JSON -/

/-- The first unit of a pair denotes nothing. -/
theorem denoted_pair {c : Char} (beyond : 0x10000 ≤ c.toNat) (rest : List Char) :
    denoted? 0 (Json.escapeChar .ascii c ++ rest) = none := by
  have below : c.toNat < 0x110000 := by
    have valid : c.toNat.isValidChar := c.valid
    rcases valid with low | ⟨_, high⟩ <;> omega
  have half : character? (0xD800 + (c.toNat - 0x10000) / 0x400) = none := by
    rw [character?, if_neg]
    rintro (low | ⟨high, _⟩) <;> omega
  have pair : Json.escapeChar .ascii c = Json.unicodeEscapeOf c := by
    unfold Json.escapeChar
    split
    case h_8 =>
        have control : ¬ c.toNat < 32 := by omega
        have printable : 127 ≤ c.toNat := by omega
        simp [control, printable]
    all_goals exact absurd beyond (by decide)
  have long : ¬ c.toNat < 0x10000 := by omega
  rw [pair, Json.unicodeEscapeOf, if_neg long, List.append_assoc,
    denoted_unit_escape (by omega), half]
  rfl

theorem literal_quoted_iff (text : String) :
    literal? (Json.quoted text).toList = some text ↔ ∀ c ∈ text.toList, c.toNat < 0x10000 := by
  refine ⟨fun literal => ?_, literal_quoted⟩
  have whole := literal_inside (inside_escaped .ascii text.toList)
  rw [Json.quoted_chars, whole] at literal
  obtain ⟨out, denoted, -⟩ := Option.map_eq_some_iff.mp literal
  clear literal whole
  generalize text.toList = chars at denoted
  induction chars generalizing out with
  | nil => simp
  | cons c rest ih =>
      rw [List.flatMap_cons] at denoted
      by_cases basic : c.toNat < 0x10000
      · rw [denoted_escape_char basic] at denoted
        obtain ⟨more, behind, -⟩ := Option.map_eq_some_iff.mp denoted
        exact List.forall_mem_cons.mpr ⟨basic, ih more behind⟩
      · rw [denoted_pair (by omega)] at denoted
        cases denoted

end SchemaCompiler.Model
