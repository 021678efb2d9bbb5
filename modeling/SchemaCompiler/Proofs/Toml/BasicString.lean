import SchemaCompiler.Proofs.Json.StringLiteral
import SchemaCompiler.Toml.Reader

/-!
Strings that are written as in JSON. A document reads them back as far as the characters lie in
the basic plane. Any other one is written as a pair of surrogates, and half of such a pair is no
character that an escape of a document may name.
-/

namespace SchemaCompiler.Toml

open Text Json

/-- All characters lie in the basic plane. -/
def IsBasic (text : List Char) : Prop := ∀ c ∈ text, c.toNat < 0x10000

instance (text : List Char) : Decidable (IsBasic text) :=
  List.decidableBAll (fun c : Char => c.toNat < 0x10000) text

/-! Escapes -/

def isSurrogate (unit : Nat) : Bool := 0xD800 ≤ unit && unit < 0xE000

theorem unit_hex_char (unit : Nat) (small : unit < 0x10000) (tail : List Char) :
    hexChar? 4 ((unitEscape unit).drop 2 ++ tail) =
      if isSurrogate unit then none else some (Char.ofNat unit) := by
  have four : ((unitEscape unit).drop 2 ++ tail).take 4 = (unitEscape unit).drop 2 := rfl
  have values : ((unitEscape unit).drop 2).mapM hexValue? =
      some [unit / 4096 % 16, unit / 256 % 16, unit / 16 % 16, unit % 16] := by
    simp [unitEscape, List.mapM_cons, hex_value_hex_digit]
  have code : ((unit / 4096 % 16 * 16 + unit / 256 % 16) * 16 + unit / 16 % 16) * 16 + unit % 16 =
      unit := by omega
  have length : ((unitEscape unit).drop 2).length = 4 := rfl
  simp only [hexChar?, four, values, Option.bind_eq_bind, Option.bind_some, List.foldl_cons,
    List.foldl_nil, Nat.zero_mul, Nat.zero_add, code, length]
  by_cases half : isSurrogate unit = true
  · have range : 0xD800 ≤ unit ∧ unit < 0xE000 := by simpa [isSurrogate] using half
    simp [half, show ¬ unit < 0xD800 by omega, show ¬ 0xE000 ≤ unit by omega]
  · have range : unit < 0xD800 ∨ 0xE000 ≤ unit := by
      simp only [isSurrogate, Bool.and_eq_true, decide_eq_true_eq] at half
      omega
    simp [half, range, show unit < 0x110000 by omega]

theorem read_quoted_skip (multiline : Bool) (taken tail : List Char) :
    readQuoted multiline taken.length (taken ++ tail) = readQuoted multiline 0 tail := by
  induction taken with
  | nil => rfl
  | cons c rest ih => simpa [readQuoted] using ih

theorem read_backslash (text : List Char) :
    readQuoted false 0 ('\\' :: text) =
      match escape? false text with
      | none => .error .malformed
      | some (decoded, used) =>
        (readQuoted false used text).map fun (content, left) => (decoded ++ content, left) := rfl

/-- The escape of a code unit is read unless that is half of a surrogate pair. -/
theorem read_unit_escape (unit : Nat) (small : unit < 0x10000) (tail : List Char) :
    readQuoted false 0 (unitEscape unit ++ tail) =
      if isSurrogate unit then .error .malformed
      else (readQuoted false 0 tail).map fun (content, left) =>
        (Char.ofNat unit :: content, left) := by
  have behind := read_quoted_skip false ((unitEscape unit).drop 1) tail
  have escaped : escape? false ((unitEscape unit).drop 1 ++ tail) =
      (hexChar? 4 ((unitEscape unit).drop 2 ++ tail)).map fun c => ([c], 5) := rfl
  refine (read_backslash ((unitEscape unit).drop 1 ++ tail)).trans ?_
  rw [escaped, unit_hex_char unit small]
  by_cases half : isSurrogate unit = true
  · simp [half]
  · simp only [half, Bool.false_eq_true, if_false, Option.map_some]
    exact congrArg (Except.map _) behind

theorem read_short_escape (c mark : Char) (tail : List Char) (notUnit : mark ≠ 'u' ∧ mark ≠ 'U')
    (short : shortEscape? mark = some c) :
    readQuoted false 0 ('\\' :: mark :: tail) =
      (readQuoted false 0 tail).map fun (content, left) => (c :: content, left) := by
  have escaped : escape? false (mark :: tail) = some ([c], 1) := by
    simp [escape?, short, notUnit]
  rw [read_backslash, escaped]
  rfl

theorem not_surrogate (c : Char) : isSurrogate c.toNat = false := by
  have valid : c.toNat < 0xD800 ∨ (0xDFFF < c.toNat ∧ c.toNat < 0x110000) := c.valid
  simp only [isSurrogate, Bool.and_eq_false_iff, decide_eq_false_iff_not]
  omega

theorem read_unicode_escape (c : Char) (tail : List Char) :
    readQuoted false 0 (unicodeEscapeOf c ++ tail) =
      if c.toNat < 0x10000 then
        (readQuoted false 0 tail).map fun (content, left) => (c :: content, left)
      else .error .malformed := by
  by_cases basic : c.toNat < 0x10000
  · have unit := read_unit_escape c.toNat basic tail
    simpa [unicodeEscapeOf, basic, not_surrogate] using unit
  · have valid : c.toNat < 0xD800 ∨ (0xDFFF < c.toNat ∧ c.toNat < 0x110000) := c.valid
    have half : isSurrogate (0xD800 + (c.toNat - 0x10000) / 0x400) = true := by
      simp only [isSurrogate, Bool.and_eq_true, decide_eq_true_eq]
      omega
    have unit := read_unit_escape (0xD800 + (c.toNat - 0x10000) / 0x400) (by omega)
      (unitEscape (0xDC00 + (c.toNat - 0x10000) % 0x400) ++ tail)
    simpa [unicodeEscapeOf, basic, half] using unit

/-- One written character in front of the remaining content. -/
theorem read_escaped (c : Char) (tail : List Char) :
    readQuoted false 0 (escapeChar .ascii c ++ tail) =
      if c.toNat < 0x10000 then
        (readQuoted false 0 tail).map fun (content, left) => (c :: content, left)
      else .error .malformed := by
  unfold escapeChar
  split
  · exact read_short_escape _ _ tail (by decide) rfl
  · exact read_short_escape _ _ tail (by decide) rfl
  · exact read_short_escape _ _ tail (by decide) rfl
  · exact read_short_escape _ _ tail (by decide) rfl
  · exact read_short_escape _ _ tail (by decide) rfl
  · exact read_short_escape _ _ tail (by decide) rfl
  · exact read_short_escape _ _ tail (by decide) rfl
  · next notQuote notSlash _ _ _ _ _ =>
    have quote : c ≠ '"' := notQuote
    have slash : c ≠ '\\' := notSlash
    split
    · exact read_unicode_escape c tail
    · next low =>
      split
      · exact read_unicode_escape c tail
      · next raw =>
        have high : ¬ 127 ≤ c.toNat := by simpa using raw
        have plain : isControl c = false := by
          simp only [isControl, Bool.or_eq_false_iff, Bool.and_eq_false_iff,
            decide_eq_false_iff_not, beq_eq_false_iff_ne]
          omega
        have basic : c.toNat < 0x10000 := by omega
        simp [readQuoted, quote, slash, plain, basic]

/-- What was quoted is read up to its closing quote, unless a character lies beyond the basic
plane. -/
theorem read_quoted_content (content tail : List Char) :
    readQuoted false 0 (content.flatMap (escapeChar .ascii) ++ '"' :: tail) =
      if IsBasic content then .ok (content, tail) else .error .malformed := by
  induction content with
  | nil => simp [readQuoted, IsBasic]
  | cons c rest ih =>
      rw [List.flatMap_cons, List.append_assoc, read_escaped, ih]
      by_cases first : c.toNat < 0x10000
      · by_cases others : IsBasic rest
        · have all : IsBasic (c :: rest) := List.forall_mem_cons.mpr ⟨first, others⟩
          rw [if_pos first, if_pos others, if_pos all]
          rfl
        · have beyond : ¬ IsBasic (c :: rest) := fun all => others (List.forall_mem_cons.mp all).2
          rw [if_pos first, if_neg others, if_neg beyond]
          rfl
      · have beyond : ¬ IsBasic (c :: rest) := fun all => first (List.forall_mem_cons.mp all).1
        rw [if_neg first, if_neg beyond]

end SchemaCompiler.Toml
