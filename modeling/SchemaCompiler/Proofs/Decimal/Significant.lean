import SchemaCompiler.Proofs.Decimal.FloatText

/-!
Significant digits of a positive value: the coefficient that is written, and the value that the
digits have when its trailing zeros are left out.
-/

namespace SchemaCompiler.Decimal

open Text

theorem digit_length_bounds {n : Nat} (positive : 0 < n) :
    10 ^ (digitLength n - 1) ≤ n ∧ n < 10 ^ (digitLength n - 1 + 1) := by
  have some : 0 < digitLength n := Nat.length_toDigits_pos
  constructor
  · by_cases one : digitLength n = 1
    · rw [one]
      exact positive
    · refine Nat.not_lt.mp fun small => ?_
      have shorter := (Nat.length_toDigits_le_iff (n := n) (by decide : 1 < 10)
        (by omega : 0 < digitLength n - 1)).mpr small
      change digitLength n ≤ digitLength n - 1 at shorter
      omega
  · rw [Nat.sub_add_cancel some]
    exact (Nat.length_toDigits_le_iff (by decide) some).mp (le_refl (digitLength n))

/-- The leading power of a numeral. -/
theorem magnitude_digits {n : Numeral} (positive : 0 < n.coefficient) :
    (10 : ℚ) ^ (n.exponent + digitLength n.coefficient - 1) ≤ n.magnitude ∧
      n.magnitude < 10 ^ (n.exponent + digitLength n.coefficient) := by
  obtain ⟨low, high⟩ := digit_length_bounds positive
  have some : 0 < digitLength n.coefficient := Nat.length_toDigits_pos
  rw [Nat.sub_add_cancel some] at high
  have lower : ((10 : ℚ) ^ (digitLength n.coefficient - 1)) ≤ n.coefficient := by
    exact_mod_cast low
  have upper : (n.coefficient : ℚ) < 10 ^ digitLength n.coefficient := by exact_mod_cast high
  have unit : (0 : ℚ) < 10 ^ n.exponent := by positivity
  have first : n.exponent + digitLength n.coefficient - 1 =
      ((digitLength n.coefficient - 1 : Nat) : Int) + n.exponent := by omega
  rw [first, add_comm n.exponent, ten_power_add, ten_power_add, zpow_natCast, zpow_natCast,
    Numeral.magnitude]
  constructor <;> gcongr

theorem leading_power_spec {num den : Nat} (positive : 0 < num) (divisor : 0 < den) :
    (10 : ℚ) ^ leadingPower num den ≤ num / den ∧
      (num : ℚ) / den < 10 ^ (leadingPower num den + 1) := by
  have guess : ((digitLength num - 1 : Nat) : Int) - ((digitLength den - 1 : Nat) : Int) =
      (digitLength num : Int) - digitLength den := by
    have first : 0 < digitLength num := Nat.length_toDigits_pos
    have second : 0 < digitLength den := Nat.length_toDigits_pos
    omega
  have chosen : leadingPower num den = if (scale 10 num den
      ((digitLength num : Int) - digitLength den)).2 ≤ (scale 10 num den
      ((digitLength num : Int) - digitLength den)).1 then (digitLength num : Int) - digitLength den
    else (digitLength num : Int) - digitLength den - 1 := rfl
  rw [← guess] at chosen
  have leading := leading_exponent 10 (by decide) (digit_length_bounds positive)
    (digit_length_bounds divisor) chosen
  exact_mod_cast leading

/-! Coefficients -/

theorem strip_zeros (digits : List Char) :
    ∃ count, digits = (digits.reverse.dropWhile (· == '0')).reverse ++ zeros count := by
  have parts := List.takeWhile_append_dropWhile (p := (· == '0')) (l := digits.reverse)
  have same : digits.reverse.takeWhile (· == '0') =
      zeros (digits.reverse.takeWhile (· == '0')).length := by
    rw [zeros, List.eq_replicate_iff]
    refine ⟨rfl, fun c member => ?_⟩
    have all := List.all_takeWhile (p := (· == '0')) (l := digits.reverse)
    simpa using List.all_eq_true.mp all c member
  refine ⟨(digits.reverse.takeWhile (· == '0')).length, ?_⟩
  have whole := congrArg List.reverse parts
  rw [List.reverse_append, List.reverse_reverse] at whole
  conv_lhs => rw [← whole, same]
  rw [zeros, List.reverse_replicate]

/-- The digits of a coefficient are digits with its value. -/
theorem of_coefficient_digits {coefficient : Nat} (positive : 0 < coefficient) (exponent : Int) :
    (Digits.ofCoefficient coefficient exponent).digits ≠ [] ∧
      AsciiDigits (Digits.ofCoefficient coefficient exponent).digits ∧
      (Digits.ofCoefficient coefficient exponent).value = coefficient * 10 ^ exponent := by
  obtain ⟨count, whole⟩ := strip_zeros (Nat.toDigits 10 coefficient)
  have value := decimal_value_to_digits coefficient
  have length := congrArg List.length whole
  rw [List.length_append, zeros, List.length_replicate] at length
  simp only [Digits.ofCoefficient, Digits.value]
  generalize kept : ((Nat.toDigits 10 coefficient).reverse.dropWhile (· == '0')).reverse = digits
    at whole length ⊢
  rw [whole, trailing_zeros] at value
  refine ⟨?_, ?_, ?_⟩
  · rintro rfl
    rw [show decimalValue [] = 0 from rfl] at value
    omega
  · intro c member
    exact to_digits_ascii coefficient c (by rw [whole]; exact List.mem_append_left _ member)
  · have place : exponent + ((Nat.toDigits 10 coefficient).length : Int) - 1 - digits.length + 1 =
        (count : Int) + exponent := by
      omega
    rw [place, ten_power_add, zpow_natCast, ← mul_assoc, ← value]
    push_cast
    rfl

theorem of_coefficient_length (coefficient : Nat) (exponent : Int) :
    (Digits.ofCoefficient coefficient exponent).digits.length ≤ digitLength coefficient := by
  have kept := (List.dropWhile_sublist (· == '0')
    (l := (Nat.toDigits 10 coefficient).reverse)).length_le
  rw [List.length_reverse] at kept
  rwa [Digits.ofCoefficient, List.length_reverse]

end SchemaCompiler.Decimal
