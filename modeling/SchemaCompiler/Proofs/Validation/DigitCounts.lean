import Mathlib.Data.Rat.Floor
import SchemaCompiler.Proofs.Decimal.NumberText
import SchemaCompiler.Proofs.Validation.Integers

/-!
The digits of a number. How many stand in front of the point and how many behind it depends on
the number alone: not on its sign, nor on zeros, points and exponents that it is written with.
-/

namespace SchemaCompiler.Validation

open Decimal Text

/-! Lengths -/

theorem digit_length_le_iff (n limit : Nat) :
    digitLength n ≤ limit ↔ 0 < limit ∧ n < 10 ^ limit := by
  by_cases some : 0 < limit
  · rw [and_iff_right some]
    exact Nat.length_toDigits_le_iff (by decide) some
  · have present : 0 < digitLength n := Nat.length_toDigits_pos
    exact iff_of_false (by omega) fun both => some both.1

/-- Digits cut off at the right, one being left. -/
theorem digit_length_div (n places : Nat) :
    digitLength (n / 10 ^ places) = max (digitLength n - places) 1 := by
  refine eq_of_forall_ge_iff fun limit => ?_
  have present : 0 < digitLength n := Nat.length_toDigits_pos
  have cut : n / 10 ^ places < 10 ^ limit ↔ n < 10 ^ (limit + places) := by
    rw [Nat.div_lt_iff_lt_mul (by positivity), pow_add]
  rw [digit_length_le_iff, cut, max_le_iff, Nat.sub_le_iff_le_add, digit_length_le_iff]
  constructor
  · rintro ⟨some, small⟩
    exact ⟨⟨by omega, small⟩, some⟩
  · rintro ⟨⟨_, small⟩, some⟩
    exact ⟨some, small⟩

/-- Zeros appended at the right. -/
theorem digit_length_mul {n : Nat} (positive : 0 < n) (zeros : Nat) :
    digitLength (n * 10 ^ zeros) = digitLength n + zeros := by
  have cut := digit_length_div (n * 10 ^ zeros) zeros
  rw [Nat.mul_div_cancel _ (by positivity)] at cut
  have long : ¬ digitLength (n * 10 ^ zeros) ≤ zeros := by
    rw [digit_length_le_iff]
    rintro ⟨_, small⟩
    exact absurd small (Nat.not_lt.mpr (Nat.le_mul_of_pos_left _ positive))
  omega

/-! Digits in front of the point and behind it -/

/-- Some whole number over a power of ten without a factor of ten to cancel, with as many digits
in front of the point as its whole part has. -/
structure Counted (v : ℚ) (whole places coefficient : Nat) : Prop where
  value : v = coefficient / 10 ^ places
  reduced : places = 0 ∨ ¬ 10 ∣ coefficient
  length : whole = digitLength (coefficient / 10 ^ places)

theorem drop_fraction_zeros (coefficient places : Nat) :
    ∃ dropped, (Numeral.dropFractionZeros coefficient places).2 + dropped = places ∧
      (Numeral.dropFractionZeros coefficient places).1 * 10 ^ dropped = coefficient ∧
      ((Numeral.dropFractionZeros coefficient places).2 = 0 ∨
        ¬ 10 ∣ (Numeral.dropFractionZeros coefficient places).1) := by
  induction places generalizing coefficient with
  | zero => exact ⟨0, rfl, Nat.mul_one coefficient, .inl rfl⟩
  | succ places ih =>
      rw [Numeral.dropFractionZeros]
      split
      · next last =>
        have divides : 10 ∣ coefficient := Nat.dvd_of_mod_eq_zero (by simpa using last)
        obtain ⟨dropped, length, value, reduced⟩ := ih (coefficient / 10)
        refine ⟨dropped + 1, by omega, ?_, reduced⟩
        rw [Nat.pow_succ, ← Nat.mul_assoc, value, Nat.div_mul_cancel divides]
      · next last =>
        refine ⟨0, rfl, Nat.mul_one coefficient, .inr fun divides => last ?_⟩
        simp [Nat.mod_eq_zero_of_dvd divides]

theorem digit_split_counted (n : Numeral) :
    ∃ coefficient, Counted n.magnitude n.digitSplit.1 n.digitSplit.2 coefficient := by
  rw [Numeral.digitSplit, Numeral.magnitude]
  by_cases zero : n.coefficient = 0
  · exact ⟨0, by simp [zero], .inl (by simp [zero]), by simp [zero, digitLength]⟩
  · simp only [beq_iff_eq, zero, if_false]
    split
    · next whole =>
      have power : (10 : ℚ) ^ n.exponent = 10 ^ n.exponent.toNat := by
        rw [← zpow_natCast, Int.toNat_of_nonneg whole]
      refine ⟨n.coefficient * 10 ^ n.exponent.toNat, by simp [power], .inl rfl, ?_⟩
      rw [Nat.pow_zero, Nat.div_one, digit_length_mul (Nat.pos_of_ne_zero zero)]
    · next fraction =>
      obtain ⟨dropped, length, value, reduced⟩ :=
        drop_fraction_zeros n.coefficient n.exponent.natAbs
      generalize Numeral.dropFractionZeros n.coefficient n.exponent.natAbs = kept
        at length value reduced ⊢
      obtain ⟨coefficient, places⟩ := kept
      have power : n.exponent = -((places + dropped : Nat) : Int) := by omega
      refine ⟨coefficient, ?_, reduced, (digit_length_div coefficient places).symm⟩
      rw [power, zpow_neg, zpow_natCast, ← value, pow_add]
      push_cast
      field_simp

section Counted

variable {v : ℚ} {whole places coefficient : Nat}

theorem counted_places (counted : Counted v whole places coefficient) :
    IsLeast {p : ℕ | ∃ z : ℤ, v * 10 ^ p = z} places := by
  have ten : ∀ p : ℕ, (10 : ℚ) ^ p ≠ 0 := fun p => pow_ne_zero p (by norm_num)
  refine ⟨⟨coefficient, ?_⟩, fun p ⟨z, scaled⟩ => ?_⟩
  · rw [counted.value, div_mul_cancel₀ _ (ten places)]
    rfl
  · rcases counted.reduced with none | reduced
    · omega
    · refine Nat.le_of_not_lt fun fewer => reduced ?_
      -- Fewer places would leave a power of ten in the coefficient.
      have whole : (coefficient : ℚ) = z * 10 ^ (places - p) := by
        rw [← scaled, counted.value, mul_assoc, ← pow_add, Nat.add_sub_cancel' fewer.le,
          div_mul_cancel₀ _ (ten places)]
      have product : (coefficient : ℤ) = z * 10 ^ (places - p) := by exact_mod_cast whole
      have divides : (10 : ℤ) ∣ coefficient := by
        rw [product]
        exact Dvd.dvd.mul_left (dvd_pow_self 10 (by omega)) z
      exact_mod_cast divides

theorem counted_whole (counted : Counted v whole places coefficient) : whole = digitsOf ⌊v⌋ := by
  have floor : ⌊v⌋ = ((coefficient / 10 ^ places : Nat) : ℤ) := by
    rw [counted.value]
    exact_mod_cast Rat.floor_natCast_div_natCast coefficient (10 ^ places)
  rw [counted.length, floor, ← digit_length_eq, Int.natAbs_natCast]

end Counted

theorem scaled_abs (v : ℚ) :
    {p : ℕ | ∃ z : ℤ, |v| * 10 ^ p = z} = {p : ℕ | ∃ z : ℤ, v * 10 ^ p = z} := by
  ext p
  rw [Set.mem_ofPred_eq, Set.mem_ofPred_eq]
  rcases abs_choice v with same | same
  · rw [same]
  · rw [same]
    constructor
    · rintro ⟨z, scaled⟩
      exact ⟨-z, by rw [Int.cast_neg, ← scaled, neg_mul, neg_neg]⟩
    · rintro ⟨z, scaled⟩
      exact ⟨-z, by rw [Int.cast_neg, ← scaled, neg_mul]⟩

/-! Texts -/

theorem number_text_counts (t : NumberText) (kept : t.numeral.inRange = true) :
    ∃ places, decimalPlaces? t.text = some places ∧
      digitCount? t.text = some (places + digitsOf ⌊|t.value|⌋) ∧
      IsLeast {p : ℕ | ∃ z : ℤ, |t.value| * 10 ^ p = z} places := by
  obtain ⟨coefficient, counted⟩ := digit_split_counted t.numeral
  rw [← abs_value] at counted
  have split : digitSplit? t.text = some t.numeral.digitSplit := by
    rw [digitSplit?, read_number_text, kept]
    rfl
  refine ⟨t.numeral.digitSplit.2, by rw [decimalPlaces?, split]; rfl, ?_, counted_places counted⟩
  rw [digitCount?, split, ← counted_whole counted, Nat.add_comm]
  rfl

/-- Within the reach of a decimal, the places of a number are the fewest that make it whole, and
all its digits are these and the digits of its whole part. So two texts of one absolute value have
the same counts. -/
theorem digit_counts_of_value (t : NumberText) (kept : t.numeral.inRange = true) :
    ∃ places, decimalPlaces? t.text = some places ∧
      digitCount? t.text = some (places + digitsOf ⌊|t.value|⌋) ∧
      IsLeast {p : ℕ | ∃ z : ℤ, t.value * 10 ^ p = z} places ∧
      ∀ other : NumberText, other.numeral.inRange = true → |other.value| = |t.value| →
        decimalPlaces? other.text = decimalPlaces? t.text ∧
          digitCount? other.text = digitCount? t.text := by
  obtain ⟨places, behind, count, least⟩ := number_text_counts t kept
  refine ⟨places, behind, count, by rwa [scaled_abs] at least, fun other reach same => ?_⟩
  obtain ⟨places', behind', count', least'⟩ := number_text_counts other reach
  rw [same] at least' count'
  rw [behind, count, behind', count', least'.unique least]
  exact ⟨rfl, rfl⟩

def paddedNumber : NumberText where
  sign := .minus
  whole := ['0', '0']
  fraction := some ['1', '2', '5', '0']
  power := some ⟨true, .minus, ['1'], by decide, by decide⟩
  present := by decide
  wholeRun := by decide
  fractionRun := by decide

def plainNumber : NumberText where
  sign := .bare
  whole := ['1']
  fraction := some ['2', '5']
  power := some ⟨false, .minus, ['0', '2'], by decide, by decide⟩
  present := by decide
  wholeRun := by decide
  fractionRun := by decide

theorem digit_counts_small :
    paddedNumber.text = "-00.1250E-1".toList ∧ plainNumber.text = "1.25e-02".toList ∧
    paddedNumber.numeral.inRange = true ∧ plainNumber.numeral.inRange = true ∧
    |plainNumber.value| = |paddedNumber.value| ∧
    decimalPlaces? paddedNumber.text = some 4 ∧ digitCount? paddedNumber.text = some 5 ∧
    decimalPlaces? plainNumber.text = some 4 ∧ digitCount? plainNumber.text = some 5 ∧
    IsLeast {p : ℕ | ∃ z : ℤ, paddedNumber.value * 10 ^ p = z} 4 := by
  have same : |plainNumber.value| = |paddedNumber.value| := by
    have padded : paddedNumber.numeral = ⟨true, 1250, -5⟩ := rfl
    have plain : plainNumber.numeral = ⟨false, 125, -4⟩ := rfl
    rw [abs_value, abs_value, padded, plain, Numeral.magnitude, Numeral.magnitude]
    norm_num
  obtain ⟨places, behind, count, least, others⟩ := digit_counts_of_value paddedNumber rfl
  obtain ⟨behind', count'⟩ := others plainNumber rfl same
  have four : decimalPlaces? paddedNumber.text = some 4 := rfl
  have five : digitCount? paddedNumber.text = some 5 := rfl
  rw [Option.some.inj (behind.symm.trans four)] at least
  exact ⟨rfl, rfl, rfl, rfl, same, four, five, behind'.trans four, count'.trans five, least⟩

end SchemaCompiler.Validation
