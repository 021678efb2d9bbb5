import Mathlib.Algebra.Group.Nat.Defs
import SchemaCompiler.Decimal.Numeral

/-!
Decimal digits of naturals. The digits that a number is written with denote it, none of them is
beyond ASCII, and only zero starts with a zero.
-/

namespace SchemaCompiler.Text

theorem ascii_digit_of_digit {c : Char} (digit : c.isDigit = true) : isAsciiDigit c = true := by
  simpa [isAsciiDigit, Char.isDigit, Char.le_def, and_comm] using digit

theorem to_digits_ascii (n : Nat) : ∀ c ∈ Nat.toDigits 10 n, isAsciiDigit c = true := by
  intro c member
  exact ascii_digit_of_digit (Nat.isDigit_of_mem_toDigits (by decide) (by decide) member)

theorem ascii_digit_range {c : Char} (digit : isAsciiDigit c = true) :
    48 ≤ c.toNat ∧ c.toNat ≤ 57 := by
  simpa [isAsciiDigit, Char.le_def, UInt32.le_iff_toNat_le] using digit

theorem ascii_digit_solid {c : Char} (digit : isAsciiDigit c = true) : isBlank c = false := by
  have range := ascii_digit_range digit
  simp only [isBlank, Bool.or_eq_false_iff, Bool.and_eq_false_iff, decide_eq_false_iff_not,
    beq_eq_false_iff_ne]
  omega

theorem decimal_digit_of_ascii {c : Char} (digit : isAsciiDigit c = true) :
    decimalDigit? c = some (c.toNat - 48) := by
  have below : c.toNat < 128 := by
    have := ascii_digit_range digit
    omega
  simp [decimalDigit?, below, digit]

theorem is_decimal_of_ascii {c : Char} (digit : isAsciiDigit c = true) :
    isDecimalDigit c = true := by
  simp [isDecimalDigit, decimal_digit_of_ascii digit]

theorem decimal_digit_zero {c : Char} (digit : isDecimalDigit c = true) :
    isAsciiDigit c = true ∨ ∃ low ∈ Tables.decimalZeros, low ≤ c.toNat ∧ c.toNat < low + 10 := by
  rw [isDecimalDigit, decimalDigit?] at digit
  split at digit
  · split at digit
    · next ascii => exact .inl ascii
    · cases digit
  · rw [Option.isSome_map, List.find?_isSome] at digit
    obtain ⟨low, listed, within⟩ := digit
    exact .inr ⟨low, listed, by simpa using within⟩

/-- Digits of other scripts start behind the spacing marks of Latin and Ogham, and none stand
among the general punctuation. -/
theorem decimal_zeros_solid : ∀ low ∈ Tables.decimalZeros,
    0x300 < low ∧ (low + 10 ≤ 0x1680 ∨ 0x1680 < low) ∧ (low + 10 ≤ 0x2000 ∨ 0x3000 < low) := by
  decide

theorem decimal_digit_solid {c : Char} (digit : isDecimalDigit c = true) : isBlank c = false := by
  rcases decimal_digit_zero digit with ascii | ⟨low, listed, above, below⟩
  · exact ascii_digit_solid ascii
  · obtain ⟨latin, ogham, punctuation⟩ := decimal_zeros_solid low listed
    simp only [isBlank, Bool.or_eq_false_iff, Bool.and_eq_false_iff, decide_eq_false_iff_not,
      beq_eq_false_iff_ne]
    omega

def AsciiDigits (digits : List Char) : Prop := ∀ c ∈ digits, isAsciiDigit c = true

/-- What follows does not continue a run of digits. -/
def EndsDigits (rest : List Char) : Prop := ∀ c, rest.head? = some c → isDecimalDigit c = false

/-- Decimal digits of any script. -/
def DecimalDigits (digits : List Char) : Prop := ∀ c ∈ digits, isDecimalDigit c = true

instance (digits : List Char) : Decidable (DecimalDigits digits) :=
  List.decidableBAll (fun c => isDecimalDigit c = true) digits

theorem decimal_of_ascii {digits : List Char} (ascii : AsciiDigits digits) :
    DecimalDigits digits :=
  fun c member => is_decimal_of_ascii (ascii c member)

theorem take_run {passes : Char → Bool} {run rest : List Char}
    (all : ∀ c ∈ run, passes c = true) (ends : ∀ c, rest.head? = some c → passes c = false) :
    (run ++ rest).takeWhile passes = run ∧ (run ++ rest).dropWhile passes = rest := by
  rw [List.takeWhile_append_of_pos all, List.dropWhile_append_of_pos all]
  cases rest with
  | nil => simp
  | cons c more =>
      have stop := ends c rfl
      simp [stop]

theorem take_digits {digits rest : List Char} (run : DecimalDigits digits)
    (ends : EndsDigits rest) :
    (digits ++ rest).takeWhile isDecimalDigit = digits ∧
      (digits ++ rest).dropWhile isDecimalDigit = rest :=
  take_run run ends

theorem take_decimal {digits rest : List Char} (ascii : AsciiDigits digits)
    (ends : EndsDigits rest) :
    (digits ++ rest).takeWhile isDecimalDigit = digits ∧
      (digits ++ rest).dropWhile isDecimalDigit = rest :=
  take_digits (decimal_of_ascii ascii) ends

theorem decimal_fold_eq (digits : List Char) (ascii : ∀ c ∈ digits, isAsciiDigit c = true)
    (value : Nat) :
    digits.foldl (fun value c => value * 10 + (decimalDigit? c).getD 0) value =
      Nat.ofDigitChars 10 digits value := by
  induction digits generalizing value with
  | nil => simp
  | cons c rest ih =>
      have head := decimal_digit_of_ascii (ascii c (by simp))
      have tail := ih (fun d member => ascii d (List.mem_cons_of_mem c member))
      simp only [List.foldl_cons, head, Option.getD_some, tail, Nat.ofDigitChars_cons]
      rw [Nat.mul_comm]
      rfl

theorem decimal_value_to_digits (n : Nat) : decimalValue (Nat.toDigits 10 n) = n := by
  rw [decimalValue, decimal_fold_eq _ (to_digits_ascii n)]
  exact Nat.ofDigitChars_ten_toDigits

theorem digit_char_eq_zero {d : Nat} (small : d < 10) (zero : d.digitChar = '0') : d = 0 := by
  have := Nat.toNat_digitChar_of_lt_ten small
  rw [zero] at this
  simpa using this

theorem head_to_digits_ne_zero {n : Nat} (positive : 0 < n) :
    (Nat.toDigits 10 n).head? ≠ some '0' := by
  -- Digits are taken off from the right, and the first one stays to the end.
  induction n using Nat.base_induction 10 (by decide) with
  | single m small =>
      rw [Nat.toDigits_of_lt_base small]
      intro same
      have := digit_char_eq_zero small (by simpa using same)
      omega
  | digit m k small leading ih =>
      rw [← Nat.toDigits_append_toDigits (by decide) leading small,
        List.head?_append, List.head?_eq_some_head Nat.toDigits_ne_nil]
      simpa [List.head?_eq_some_head] using ih leading

theorem decimal_value_fold (digits : List Char) (value : Nat) :
    digits.foldl (fun value c => value * 10 + (decimalDigit? c).getD 0) value =
      value * 10 ^ digits.length + decimalValue digits := by
  induction digits generalizing value with
  | nil => simp [decimalValue]
  | cons c rest ih =>
      rw [decimalValue, List.foldl_cons, List.foldl_cons, ih, ih (0 * 10 + _), List.length_cons,
        Nat.pow_succ]
      simp only [Nat.add_mul, Nat.zero_mul, Nat.zero_add, Nat.mul_assoc, Nat.mul_comm 10,
        Nat.add_assoc]

theorem decimal_value_append (front back : List Char) :
    decimalValue (front ++ back) = decimalValue front * 10 ^ back.length + decimalValue back := by
  rw [decimalValue, List.foldl_append, decimal_value_fold]
  rfl

theorem decimal_value_zeros (count : Nat) : decimalValue (List.replicate count '0') = 0 := by
  induction count with
  | zero => rfl
  | succ count ih =>
      rw [List.replicate_succ', decimal_value_append, ih]
      rfl

theorem decimal_digit_lt {c : Char} {digit : Nat} (read : decimalDigit? c = some digit) :
    digit < 10 := by
  simp only [decimalDigit?] at read
  split at read
  · split at read
    · next ascii =>
      have range := ascii_digit_range ascii
      cases read
      omega
    · cases read
  · obtain ⟨first, found, same⟩ := Option.map_eq_some_iff.mp read
    have within := List.find?_some found
    simp only [Bool.and_eq_true, decide_eq_true_eq] at within
    omega

theorem decimal_value_lt (digits : List Char) : decimalValue digits < 10 ^ digits.length := by
  induction digits with
  | nil => simp [decimalValue]
  | cons c rest ih =>
      have head : (decimalDigit? c).getD 0 ≤ 9 := by
        cases read : decimalDigit? c with
        | none => simp
        | some digit =>
            have small := decimal_digit_lt read
            simp only [Option.getD_some]
            omega
      have value : decimalValue (c :: rest) =
          (decimalDigit? c).getD 0 * 10 ^ rest.length + decimalValue rest := by
        rw [decimalValue, List.foldl_cons, decimal_value_fold, Nat.zero_mul, Nat.zero_add]
      have bound := Nat.mul_le_mul_right (10 ^ rest.length) head
      rw [value, List.length_cons, Nat.pow_succ]
      omega

/-- A number has no more digits than it was written with. -/
theorem digit_length_value {digits : List Char} {bound : Nat} (some : 0 < bound)
    (short : digits.length ≤ bound) : Decimal.digitLength (decimalValue digits) ≤ bound := by
  rw [Decimal.digitLength, Nat.length_toDigits_le_iff (by decide) some]
  exact Nat.lt_of_lt_of_le (decimal_value_lt digits) (Nat.pow_le_pow_right (by decide) short)

end SchemaCompiler.Text
