import SchemaCompiler.Proofs.Decimal.Rounding

/-!
The magnitudes of finite values, and which of them are beyond the greatest double or single.
-/

namespace SchemaCompiler.Decimal

/-- What a finite value denotes without its sign. -/
def FloatValue.magnitude : FloatValue → ℚ
  | .finite _ mantissa exponent => mantissa * 2 ^ exponent
  | _ => 0

theorem ratio_of_positive (mantissa : Nat) (exponent : Int) :
    0 < (ratioOf mantissa exponent).2 := by
  rw [ratioOf]
  split
  · exact Nat.one_pos
  · exact Nat.two_pow_pos _

theorem ratio_of_value (mantissa : Nat) (exponent : Int) :
    ((ratioOf mantissa exponent).1 : ℚ) / (ratioOf mantissa exponent).2 =
      mantissa * 2 ^ exponent := by
  rw [ratioOf]
  split
  · next up =>
    obtain ⟨count, rfl⟩ := Int.eq_ofNat_of_zero_le up
    simp
  · next down =>
    obtain ⟨count, same⟩ := Int.eq_ofNat_of_zero_le (by omega : 0 ≤ -exponent)
    have shifted : exponent = -(count : Int) := by omega
    subst shifted
    simp [div_eq_mul_inv]

theorem double_none_iff (num : Nat) {den : Nat} (divisor : 0 < den) :
    roundRatio double num den = none ↔ (2 : ℚ) ^ 1024 - 2 ^ 970 ≤ num / den := by
  have top : ((2 : ℚ) ^ double.precision - 1 / 2) * 2 ^ double.maxExponent =
      2 ^ 1024 - 2 ^ 970 := by
    have whole : (2 : ℚ) ^ 1024 = 2 ^ 53 * (2 * 2 ^ 970) := by rw [← pow_succ', ← pow_add]
    have last : (2 : ℚ) ^ (971 : Int) = 2 * 2 ^ 970 := by rw [← pow_succ', zpow_ofNat]
    change ((2 : ℚ) ^ 53 - 1 / 2) * 2 ^ (971 : Int) = 2 ^ 1024 - 2 ^ 970
    rw [last, whole]
    generalize (2 : ℚ) ^ 970 = half
    ring
  rw [round_ratio_none_iff double (by decide) (by decide) num divisor, top]

theorem single_none_iff (num : Nat) {den : Nat} (divisor : 0 < den) :
    roundRatio single num den = none ↔ (2 : ℚ) ^ 128 - 2 ^ 103 ≤ num / den := by
  have top : ((2 : ℚ) ^ single.precision - 1 / 2) * 2 ^ single.maxExponent =
      2 ^ 128 - 2 ^ 103 := by
    norm_num [single]
  rw [round_ratio_none_iff single (by decide) (by decide) num divisor, top]

/-- The middle between the greatest double and the power of two behind it. -/
def doubleLimit : Nat := 2 ^ 1024 - 2 ^ 970

theorem of_int_none_iff (n : Int) : FloatValue.ofInt? n = none ↔ doubleLimit ≤ n.natAbs := by
  rw [doubleLimit, FloatValue.ofInt?, Option.map_eq_none_iff, double_none_iff _ Nat.one_pos,
    Nat.cast_one, div_one, sub_le_iff_le_add, Nat.sub_le_iff_le_add]
  exact_mod_cast Iff.rfl

theorem to_single_none_iff (negative : Bool) (mantissa : Nat) (exponent : Int) :
    (FloatValue.finite negative mantissa exponent).toSingle? = none ↔
      (2 : ℚ) ^ 128 - 2 ^ 103 ≤ mantissa * 2 ^ exponent := by
  rw [← ratio_of_value, ← single_none_iff _ (ratio_of_positive mantissa exponent)]
  simp only [FloatValue.toSingle?]
  cases roundRatio single (ratioOf mantissa exponent).1 (ratioOf mantissa exponent).2 with
  | none => simp
  | some narrowed => simp

theorem singles_below_doubles : (2 : ℚ) ^ 128 + 2 ^ 104 < 2 ^ 1024 - 2 ^ 970 := by
  have twice : (2 : ℚ) * 2 ^ 970 ≤ 2 ^ 1024 := by
    rw [← pow_succ']
    exact pow_le_pow_right₀ (by norm_num) (by norm_num)
  have least : (2 : ℚ) ^ 129 ≤ 2 ^ 970 := pow_le_pow_right₀ (by norm_num) (by norm_num)
  generalize (2 : ℚ) ^ 970 = middle at twice least ⊢
  generalize (2 : ℚ) ^ 1024 = top at twice ⊢
  norm_num at least ⊢
  linarith

theorem single_upper {num den m : Nat} {e : Int} (divisor : 0 < den)
    (room : (num : ℚ) / den < 2 ^ 128 - 2 ^ 103)
    (rounded : roundRatio single num den = some (m, e)) :
    (m : ℚ) * 2 ^ e ≤ 2 ^ 128 + 2 ^ 104 := by
  have bound := round_ratio_upper single (by decide) num divisor rounded
  have unit : (2 : ℚ) ^ single.minExponent ≤ 1 :=
    zpow_le_one_of_nonpos₀ (by norm_num) (by decide)
  have share : (2 : ℚ) ^ (1 - (single.precision : Int)) = 1 / 2 ^ 23 := by
    norm_num [single]
  rw [share] at bound
  norm_num at room bound ⊢
  linarith

theorem widened_upper {num den m : Nat} {e : Int} (divisor : 0 < den)
    (room : (num : ℚ) / den ≤ 2 ^ 128 + 2 ^ 104)
    (rounded : roundRatio double num den = some (m, e)) :
    (m : ℚ) * 2 ^ e ≤ 34029 * 10 ^ 34 := by
  have bound := round_ratio_upper double (by decide) num divisor rounded
  have unit : (2 : ℚ) ^ double.minExponent ≤ 1 :=
    zpow_le_one_of_nonpos₀ (by norm_num) (by decide)
  have share : (2 : ℚ) ^ (1 - (double.precision : Int)) = 1 / 2 ^ 52 := by
    norm_num [double]
  rw [share] at bound
  norm_num at bound room ⊢
  linarith

/-- What a value is narrowed to keeps its sign and is at most a little more than the greatest
single. -/
theorem to_single_finite {negative : Bool} {mantissa : Nat} {exponent : Int}
    {narrowed : FloatValue}
    (found : (FloatValue.finite negative mantissa exponent).toSingle? = some narrowed) :
    ∃ m e, narrowed = .finite negative m e ∧ (m : ℚ) * 2 ^ e ≤ 34029 * 10 ^ 34 := by
  have divisor := ratio_of_positive mantissa exponent
  have room : ¬ (2 : ℚ) ^ 128 - 2 ^ 103 ≤ mantissa * 2 ^ exponent := by
    rw [← to_single_none_iff negative, found]
    simp
  rw [← ratio_of_value, not_le] at room
  simp only [FloatValue.toSingle?] at found
  cases rounded : roundRatio single (ratioOf mantissa exponent).1
      (ratioOf mantissa exponent).2 with
  | none => simp [rounded] at found
  | some parts =>
      obtain ⟨m, e⟩ := parts
      simp only [rounded, Option.some.injEq] at found
      have inner : ((ratioOf m e).1 : ℚ) / (ratioOf m e).2 ≤ 2 ^ 128 + 2 ^ 104 := by
        rw [ratio_of_value]
        exact single_upper divisor room rounded
      rw [FloatValue.ofRatio] at found
      cases again : roundRatio double (ratioOf m e).1 (ratioOf m e).2 with
      | none =>
          -- A single that is widened never overflows.
          rw [double_none_iff _ (ratio_of_positive m e)] at again
          exact absurd (again.trans inner) singles_below_doubles.not_ge
      | some wide =>
          rw [again] at found
          exact ⟨wide.1, wide.2, found.symm,
            widened_upper (ratio_of_positive m e) inner again⟩

end SchemaCompiler.Decimal
