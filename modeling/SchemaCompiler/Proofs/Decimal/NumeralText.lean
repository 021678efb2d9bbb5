import SchemaCompiler.Decimal.Shortest
import SchemaCompiler.Proofs.Text.Cutting
import SchemaCompiler.Proofs.Text.Digits

/-!
The parts of a number's text read back: whole digits, a point with digits behind it, and an
exponent with its sign.
-/

namespace SchemaCompiler.Decimal

open Text

/-- An exponent has a sign and digits that say how large it is. -/
theorem exponent_text_digits (power : Int) :
    ∃ digits, exponentText power = 'e' :: (if power < 0 then '-' else '+') :: digits ∧
      digits ≠ [] ∧ AsciiDigits digits ∧ decimalValue digits = power.natAbs := by
  have ascii := to_digits_ascii power.natAbs
  have value := decimal_value_to_digits power.natAbs
  by_cases short : (Nat.toDigits 10 power.natAbs).length < 2
  · refine ⟨'0' :: Nat.toDigits 10 power.natAbs, by simp [exponentText, short], by simp, ?_, ?_⟩
    · intro c member
      rcases List.mem_cons.mp member with rfl | later
      · decide
      · exact ascii c later
    · have zero : decimalValue ['0'] = 0 := rfl
      rw [← List.singleton_append, decimal_value_append, value, zero, Nat.zero_mul,
        Nat.zero_add]
  · exact ⟨_, by simp [exponentText, short], Nat.toDigits_ne_nil, ascii, value⟩

theorem read_exponent_text (power : Int) :
    Numeral.readExponent? (exponentText power) = some power := by
  obtain ⟨digits, text, nonempty, run, read⟩ := exponent_text_digits power
  have decimal : digits.all isDecimalDigit = true :=
    List.all_eq_true.mpr fun c member => is_decimal_of_ascii (run c member)
  rw [text]
  by_cases negative : power < 0
  · have size : -(decimalValue digits : Int) = power := by omega
    simp [Numeral.readExponent?, negative, nonempty, decimal, size]
  · have size : (decimalValue digits : Int) = power := by omega
    simp [Numeral.readExponent?, negative, nonempty, decimal, size]

theorem exponent_text_length (power : Int) :
    (exponentText power).length ≤ power.natAbs + 4 := by
  have digits : (Nat.toDigits 10 power.natAbs).length ≤ power.natAbs + 1 :=
    (Nat.length_toDigits_le_iff (by decide) (Nat.succ_pos _)).mpr
      (Nat.lt_trans (Nat.lt_succ_self _) (Nat.lt_pow_self (by decide)))
  simp only [exponentText, List.length_cons]
  split
  · rw [List.length_cons]
    omega
  · omega

theorem read_whole_digits (negative : Bool) {whole tail : List Char} (nonempty : whole ≠ [])
    (run : DecimalDigits whole) (ends : EndsDigits tail) (noPoint : tail.head? ≠ some '.') :
    Numeral.readUnsigned? negative (whole ++ tail) =
      (Numeral.readExponent? tail).map fun power => ⟨negative, decimalValue whole, power⟩ := by
  obtain ⟨digits, rest⟩ := take_digits run ends
  rw [Numeral.readUnsigned?]
  simp only [digits, rest]
  split
  · exact absurd rfl noPoint
  · simp [nonempty]

theorem read_point_digits (negative : Bool) {whole fraction tail : List Char}
    (nonempty : whole ++ fraction ≠ []) (run : DecimalDigits whole)
    (places : DecimalDigits fraction) (ends : EndsDigits tail) :
    Numeral.readUnsigned? negative (whole ++ '.' :: (fraction ++ tail)) =
      (Numeral.readExponent? tail).map fun power =>
        ⟨negative, decimalValue (whole ++ fraction), power - fraction.length⟩ := by
  have pointEnds : EndsDigits ('.' :: (fraction ++ tail)) := by
    rintro c ⟨⟩
    decide
  obtain ⟨digits, rest⟩ := take_digits run pointEnds
  obtain ⟨inside, behind⟩ := take_digits places ends
  have some : (whole.isEmpty && fraction.isEmpty) = false := by
    rw [Bool.eq_false_iff]
    intro both
    rw [Bool.and_eq_true, List.isEmpty_iff, List.isEmpty_iff] at both
    exact nonempty (by rw [both.1, both.2, List.append_nil])
  rw [Numeral.readUnsigned?]
  simp only [digits, rest, inside, behind, some]
  simp

theorem read_unsigned_whole (negative : Bool) {whole tail : List Char} (nonempty : whole ≠ [])
    (ascii : AsciiDigits whole) (ends : EndsDigits tail)
    (noPoint : tail.head? ≠ some '.') :
    Numeral.readUnsigned? negative (whole ++ tail) =
      (Numeral.readExponent? tail).map fun power => ⟨negative, decimalValue whole, power⟩ :=
  read_whole_digits negative nonempty (decimal_of_ascii ascii) ends noPoint

theorem read_unsigned_point (negative : Bool) {whole fraction tail : List Char}
    (nonempty : whole ≠ []) (ascii : AsciiDigits whole) (asciiFraction : AsciiDigits fraction)
    (ends : EndsDigits tail) :
    Numeral.readUnsigned? negative (whole ++ '.' :: (fraction ++ tail)) =
      (Numeral.readExponent? tail).map fun power =>
        ⟨negative, decimalValue (whole ++ fraction), power - fraction.length⟩ :=
  read_point_digits negative (List.append_ne_nil_of_left_ne_nil nonempty fraction)
    (decimal_of_ascii ascii) (decimal_of_ascii asciiFraction) ends

/-- A number has no more digits than its text has characters. -/
theorem read_unsigned_coefficient {negative : Bool} {text : List Char} {n : Numeral}
    (read : Numeral.readUnsigned? negative text = some n) :
    n.coefficient < 10 ^ text.length := by
  have bound (digits : List Char) (short : digits.length ≤ text.length) :
      decimalValue digits < 10 ^ text.length :=
    Nat.lt_of_lt_of_le (decimal_value_lt digits) (Nat.pow_le_pow_right (by decide) short)
  have parts := congrArg List.length
    (List.takeWhile_append_dropWhile (p := isDecimalDigit) (l := text))
  rw [List.length_append] at parts
  simp only [Numeral.readUnsigned?] at read
  split at read
  · next more point =>
    split at read
    · cases read
    · obtain ⟨power, _, rfl⟩ := Option.map_eq_some_iff.mp read
      refine bound _ ?_
      have places := List.takeWhile_sublist isDecimalDigit (l := more) |>.length_le
      rw [point, List.length_cons] at parts
      rw [List.length_append]
      dsimp only
      omega
  · split at read
    · cases read
    · obtain ⟨power, _, rfl⟩ := Option.map_eq_some_iff.mp read
      refine bound _ ?_
      rw [List.append_nil]
      omega

end SchemaCompiler.Decimal
