import Mathlib.Algebra.Order.Field.Power
import Mathlib.Data.Rat.Cast.Order
import Mathlib.Tactic.FieldSimp
import Mathlib.Tactic.Linarith
import Mathlib.Tactic.NormNum
import Mathlib.Tactic.Positivity
import Mathlib.Tactic.Ring
import SchemaCompiler.Decimal.Binary

/-!
Rounding to a binary format as arithmetic of rationals: how far the rounded value lies from the
exact one, and from which magnitude on there is none.
-/

namespace SchemaCompiler.Decimal

/-! Rounding to a natural -/

theorem round_half_even_near (num : Nat) {den : Nat} (positive : 0 < den) :
    (num : ℚ) / den - 1 / 2 ≤ roundHalfEven num den ∧
      (roundHalfEven num den : ℚ) ≤ num / den + 1 / 2 := by
  have whole := Nat.div_add_mod num den
  have below := Nat.mod_lt num positive
  -- Doubled, the half units are naturals.
  have bounds : 2 * num ≤ 2 * (den * roundHalfEven num den) + den ∧
      2 * (den * roundHalfEven num den) ≤ 2 * num + den := by
    simp only [roundHalfEven, gt_iff_lt, Bool.or_eq_true, Bool.and_eq_true, decide_eq_true_eq,
      beq_iff_eq]
    split
    · rw [Nat.mul_add]
      omega
    · omega
  have positiveRat : (0 : ℚ) < den := by exact_mod_cast positive
  have lower : (2 * num : ℚ) ≤ 2 * (den * roundHalfEven num den) + den := by
    exact_mod_cast bounds.1
  have upper : (2 * (den * roundHalfEven num den) : ℚ) ≤ 2 * num + den := by
    exact_mod_cast bounds.2
  constructor
  · rw [sub_le_iff_le_add, div_le_iff₀ positiveRat]
    linarith
  · rw [← sub_le_iff_le_add, le_div_iff₀ positiveRat]
    linarith

theorem round_half_even_le {num den bound : Nat} (positive : 0 < den)
    (below : (num : ℚ) / den < bound + 1 / 2) : roundHalfEven num den ≤ bound := by
  have near := (round_half_even_near num positive).2
  have strict : (roundHalfEven num den : ℚ) < (bound + 1 : Nat) := by
    push_cast
    linarith
  exact Nat.lt_succ_iff.mp (by exact_mod_cast strict)

theorem le_round_half_even {num den bound : Nat} (positive : 0 < den)
    (above : (bound : ℚ) - 1 / 2 < num / den) : bound ≤ roundHalfEven num den := by
  have near := (round_half_even_near num positive).1
  have strict : (bound : ℚ) < (roundHalfEven num den + 1 : Nat) := by
    push_cast
    linarith
  exact Nat.lt_succ_iff.mp (by exact_mod_cast strict)

/-- Half a unit above a natural, the even one of its neighbours is taken. -/
theorem round_half_even_tie {num den below : Nat} (positive : 0 < den)
    (tie : (num : ℚ) / den = below + 1 / 2) :
    roundHalfEven num den = if below % 2 = 1 then below + 1 else below := by
  have positiveRat : (0 : ℚ) < den := by exact_mod_cast positive
  rw [div_eq_iff positiveRat.ne'] at tie
  have exact : 2 * num = 2 * (den * below) + den := by
    have double : (2 * num : ℚ) = 2 * (den * below) + den := by
      rw [tie]
      ring
    exact_mod_cast double
  have quotient : num / den = below := by
    apply Nat.div_eq_of_lt_le
    · rw [Nat.mul_comm]
      omega
    · rw [Nat.add_mul, Nat.mul_comm below]
      omega
  have remainder : 2 * (num % den) = den := by
    have whole := Nat.div_add_mod num den
    rw [quotient] at whole
    omega
  simp [roundHalfEven, quotient, remainder]

theorem succ_le_round_half_even {num den below : Nat} (positive : 0 < den)
    (odd : below % 2 = 1) (above : (below : ℚ) + 1 / 2 ≤ num / den) :
    below + 1 ≤ roundHalfEven num den := by
  rcases above.lt_or_eq with beyond | tie
  · apply le_round_half_even positive
    push_cast
    linarith
  · rw [round_half_even_tie positive tie.symm, if_pos odd]

theorem round_half_even_le_of_even {num den bound : Nat} (positive : 0 < den)
    (even : bound % 2 = 0) (below : (num : ℚ) / den ≤ bound + 1 / 2) :
    roundHalfEven num den ≤ bound := by
  rcases below.lt_or_eq with under | tie
  · exact round_half_even_le positive under
  · rw [round_half_even_tie positive tie, if_neg (by omega)]

/-! Scaling -/

/-- `num / den / base ^ shift` as a quotient of naturals. -/
def scale (base num den : Nat) (shift : Int) : Nat × Nat :=
  if 0 ≤ shift then (num, den * Nat.pow base shift.toNat)
  else (num * Nat.pow base (-shift).toNat, den)

theorem scale_positive (base : Nat) (some : 0 < base) (num : Nat) {den : Nat}
    (positive : 0 < den) (shift : Int) : 0 < (scale base num den shift).2 := by
  rw [scale]
  split
  · exact Nat.mul_pos positive (Nat.pow_pos some)
  · exact positive

theorem scale_value (base num den : Nat) (shift : Int) :
    ((scale base num den shift).1 : ℚ) / (scale base num den shift).2 =
      (num : ℚ) / den / base ^ shift := by
  rw [scale]
  split
  · next up =>
    obtain ⟨count, rfl⟩ := Int.eq_ofNat_of_zero_le up
    simp [div_div]
  · next down =>
    obtain ⟨count, same⟩ := Int.eq_ofNat_of_zero_le (by omega : 0 ≤ -shift)
    have shifted : shift = -(count : Int) := by omega
    subst shifted
    simp [div_mul_eq_mul_div]

/-- The ratio of two naturals lies within one power of the difference of their leading powers. -/
theorem ratio_between (base : Nat) {num den a b : Nat} (grows : 1 < base)
    (number : base ^ a ≤ num ∧ num < base ^ (a + 1))
    (divisor : base ^ b ≤ den ∧ den < base ^ (b + 1)) :
    (base : ℚ) ^ ((a : Int) - b - 1) < num / den ∧
      (num : ℚ) / den < base ^ ((a : Int) - b + 1) := by
  have positiveBase : (0 : ℚ) < base := by exact_mod_cast Nat.lt_trans Nat.one_pos grows
  have positive : (0 : ℚ) < den := by
    exact_mod_cast Nat.lt_of_lt_of_le (Nat.pow_pos (Nat.lt_trans Nat.one_pos grows)) divisor.1
  have numberLow : (base : ℚ) ^ a ≤ num := by exact_mod_cast number.1
  have numberHigh : (num : ℚ) < base ^ (a + 1) := by exact_mod_cast number.2
  have divisorLow : (base : ℚ) ^ b ≤ den := by exact_mod_cast divisor.1
  have divisorHigh : (den : ℚ) < base ^ (b + 1) := by exact_mod_cast divisor.2
  constructor
  · rw [lt_div_iff₀ positive]
    calc (base : ℚ) ^ ((a : Int) - b - 1) * den
        < base ^ ((a : Int) - b - 1) * base ^ (b + 1) := by gcongr
      _ = base ^ a := by
          rw [← zpow_natCast, ← zpow_natCast, ← zpow_add₀ positiveBase.ne']
          congr 1
          push_cast
          ring
      _ ≤ num := numberLow
  · rw [div_lt_iff₀ positive]
    calc (num : ℚ) < base ^ (a + 1) := numberHigh
      _ = base ^ ((a : Int) - b + 1) * base ^ b := by
          rw [← zpow_natCast, ← zpow_natCast, ← zpow_add₀ positiveBase.ne']
          congr 1
          push_cast
          ring
      _ ≤ base ^ ((a : Int) - b + 1) * den := by gcongr

/-- The difference of two leading powers, or one less, is the leading power of the ratio. -/
theorem leading_exponent (base : Nat) {num den a b : Nat} (grows : 1 < base)
    (number : base ^ a ≤ num ∧ num < base ^ (a + 1))
    (divisor : base ^ b ≤ den ∧ den < base ^ (b + 1)) {exponent : Int}
    (chosen : exponent = if (scale base num den ((a : Int) - b)).2 ≤
      (scale base num den ((a : Int) - b)).1 then (a : Int) - b else (a : Int) - b - 1) :
    (base : ℚ) ^ exponent ≤ num / den ∧ (num : ℚ) / den < base ^ (exponent + 1) := by
  obtain ⟨low, high⟩ := ratio_between base grows number divisor
  have some : 0 < base := Nat.lt_trans Nat.one_pos grows
  have positive : 0 < den := Nat.lt_of_lt_of_le (Nat.pow_pos some) divisor.1
  have scaled := scale_positive base some num positive ((a : Int) - b)
  -- The larger exponent is chosen exactly when the ratio reaches its power.
  have test : (scale base num den ((a : Int) - b)).2 ≤ (scale base num den ((a : Int) - b)).1 ↔
      (base : ℚ) ^ ((a : Int) - b) ≤ num / den := by
    have unit : (0 : ℚ) < (base : ℚ) ^ ((a : Int) - b) := by positivity
    rw [← one_le_div unit, ← scale_value, one_le_div (by exact_mod_cast scaled)]
    exact_mod_cast Iff.rfl
  rw [chosen]
  split
  · next fits => exact ⟨test.mp fits, high⟩
  · next fails =>
    rw [Int.sub_add_cancel]
    exact ⟨low.le, not_le.mp fun fits => fails (test.mpr fits)⟩

theorem binary_exponent_spec {num den : Nat} (positive : 0 < num) (divisor : 0 < den) :
    (2 : ℚ) ^ binaryExponent num den ≤ num / den ∧
      (num : ℚ) / den < 2 ^ (binaryExponent num den + 1) := by
  have chosen : binaryExponent num den = if (scale 2 num den
      ((Nat.log2 num : Int) - Nat.log2 den)).2 ≤ (scale 2 num den
      ((Nat.log2 num : Int) - Nat.log2 den)).1 then (Nat.log2 num : Int) - Nat.log2 den
    else (Nat.log2 num : Int) - Nat.log2 den - 1 := rfl
  have leading := leading_exponent 2 (by decide)
    ⟨Nat.log2_self_le positive.ne', Nat.lt_log2_self⟩
    ⟨Nat.log2_self_le divisor.ne', Nat.lt_log2_self⟩ chosen
  exact_mod_cast leading

/-! Rounding to a format -/

/-- The exponent of the last place that a magnitude is rounded to. -/
def lastPlace (format : BinaryFormat) (num den : Nat) : Int :=
  max (binaryExponent num den - format.precision + 1) format.minExponent

/-- The magnitude in units of its last place, rounded. -/
def lastUnits (format : BinaryFormat) (num den : Nat) : Nat :=
  let (n, d) := scale 2 num den (lastPlace format num den)
  roundHalfEven n d

theorem round_ratio_units (format : BinaryFormat) {num : Nat} (positive : 0 < num) (den : Nat) :
    roundRatio format num den =
      if lastUnits format num den = 2 ^ format.precision then
        if format.maxExponent < lastPlace format num den + 1 then none
        else some (2 ^ (format.precision - 1), lastPlace format num den + 1)
      else if format.maxExponent < lastPlace format num den then none
      else some (lastUnits format num den, lastPlace format num den) := by
  have some : (num == 0) = false := beq_false_of_ne positive.ne'
  simp only [roundRatio, some, lastUnits, lastPlace, Bool.false_eq_true, if_false, beq_iff_eq,
    Nat.pow_eq]
  split
  · next full => exact (if_pos full).symm
  · next fits => exact (if_neg fits).symm

theorem last_units_near (format : BinaryFormat) (num : Nat) {den : Nat} (divisor : 0 < den) :
    (num : ℚ) / den / 2 ^ lastPlace format num den - 1 / 2 ≤ lastUnits format num den ∧
      (lastUnits format num den : ℚ) ≤ num / den / 2 ^ lastPlace format num den + 1 / 2 := by
  have near := round_half_even_near
    (scale 2 num den (lastPlace format num den)).1
    (scale_positive 2 (by decide) num divisor (lastPlace format num den))
  rw [scale_value] at near
  exact_mod_cast near

theorem succ_le_last_units (format : BinaryFormat) (below num : Nat) {den : Nat}
    (divisor : 0 < den) (odd : below % 2 = 1)
    (above : (below : ℚ) + 1 / 2 ≤ num / den / 2 ^ lastPlace format num den) :
    below + 1 ≤ lastUnits format num den := by
  have scaled := scale_value 2 num den (lastPlace format num den)
  rw [Nat.cast_ofNat] at scaled
  rw [← scaled] at above
  exact succ_le_round_half_even (scale_positive 2 (by decide) num divisor _) odd above

theorem last_units_le (format : BinaryFormat) {num den : Nat} (positive : 0 < num)
    (divisor : 0 < den) : lastUnits format num den ≤ 2 ^ format.precision := by
  have unit : (0 : ℚ) < 2 ^ lastPlace format num den := by positivity
  have bounded : (num : ℚ) / den / 2 ^ lastPlace format num den < 2 ^ format.precision := by
    rw [div_lt_iff₀ unit]
    refine (binary_exponent_spec positive divisor).2.trans_le ?_
    rw [← zpow_natCast, ← zpow_add₀ (by norm_num)]
    apply zpow_le_zpow_right₀ (by norm_num)
    rw [lastPlace]
    omega
  have near := (last_units_near format num divisor).2
  have under : (lastUnits format num den : ℚ) < (2 ^ format.precision + 1 : Nat) := by
    push_cast
    linarith
  exact Nat.lt_succ_iff.mp (by exact_mod_cast under)

-- A tie below a power of two goes up, since the greatest mantissa is odd.
theorem last_units_full_iff (format : BinaryFormat) (precise : 0 < format.precision)
    {num den : Nat} (positive : 0 < num) (divisor : 0 < den) :
    lastUnits format num den = 2 ^ format.precision ↔
      ((2 : ℚ) ^ format.precision - 1 / 2) * 2 ^ lastPlace format num den ≤ num / den := by
  have unit : (0 : ℚ) < 2 ^ lastPlace format num den := by positivity
  rw [← le_div_iff₀ unit]
  constructor
  · intro full
    have near := (last_units_near format num divisor).2
    rw [full] at near
    push_cast at near
    linarith
  · intro above
    have even : 2 ^ format.precision = 2 * 2 ^ (format.precision - 1) := by
      rw [← Nat.pow_succ', Nat.succ_eq_add_one, Nat.sub_add_cancel precise]
    have some : 0 < 2 ^ (format.precision - 1) := Nat.two_pow_pos _
    have last := succ_le_last_units format (2 ^ format.precision - 1) num divisor (by omega) (by
      push_cast [Nat.one_le_two_pow]
      linarith)
    have most := last_units_le format positive divisor
    omega

/-- Rounding fails above the highest last place, or when the units at that place carry over. -/
theorem round_ratio_none_units (format : BinaryFormat) {num : Nat} (positive : 0 < num)
    (den : Nat) :
    roundRatio format num den = none ↔
      format.maxExponent < lastPlace format num den ∨
        lastPlace format num den = format.maxExponent ∧
          lastUnits format num den = 2 ^ format.precision := by
  rw [round_ratio_units format positive]
  by_cases full : lastUnits format num den = 2 ^ format.precision
  · rw [if_pos full]
    by_cases high : format.maxExponent < lastPlace format num den + 1
    · simp only [if_pos high, full, and_true, true_iff]
      omega
    · simp only [if_neg high, full, and_true, reduceCtorEq, false_iff]
      omega
  · rw [if_neg full]
    by_cases high : format.maxExponent < lastPlace format num den
    · simp [high]
    · simp [high, full]

/-- There is no value of the format from half a unit below the next power of two on. -/
theorem round_ratio_none_iff (format : BinaryFormat) (precise : 0 < format.precision)
    (ordered : format.minExponent ≤ format.maxExponent) (num : Nat) {den : Nat}
    (divisor : 0 < den) :
    roundRatio format num den = none ↔
      ((2 : ℚ) ^ format.precision - 1 / 2) * 2 ^ format.maxExponent ≤ num / den := by
  have whole : (2 : ℚ) ^ format.precision = 2 ^ (format.precision : Int) := by norm_cast
  have unit : (0 : ℚ) < 2 ^ format.maxExponent := by positivity
  have room : (1 : ℚ) ≤ 2 ^ format.precision := one_le_pow₀ (by norm_num)
  rcases Nat.eq_zero_or_pos num with rfl | positive
  · rw [Nat.cast_zero, zero_div]
    have bound : 0 < ((2 : ℚ) ^ format.precision - 1 / 2) * 2 ^ format.maxExponent :=
      mul_pos (by linarith) unit
    exact ⟨fun absent => by simp [roundRatio] at absent, fun reached => absurd bound reached.not_gt⟩
  obtain ⟨low, high⟩ := binary_exponent_spec positive divisor
  have full := last_units_full_iff format precise positive divisor
  rw [round_ratio_none_units format positive]
  constructor
  · rintro (past | ⟨same, carried⟩)
    · have leading : (format.precision : Int) + format.maxExponent ≤ binaryExponent num den := by
        rw [lastPlace] at past
        omega
      have reached := (zpow_le_zpow_right₀ (by norm_num : (1 : ℚ) ≤ 2) leading).trans low
      rw [zpow_add₀ (by norm_num), ← whole] at reached
      linarith
    · rw [same] at full
      exact full.mp carried
  · intro above
    have reached : (2 : ℚ) ^ ((format.precision : Int) - 1 + format.maxExponent) ≤ num / den := by
      refine le_trans ?_ above
      rw [zpow_add₀ (by norm_num), zpow_sub₀ (by norm_num), ← whole, zpow_one]
      gcongr
      linarith
    have place := (zpow_lt_zpow_iff_right₀ (by norm_num)).mp (reached.trans_lt high)
    have beyond : format.maxExponent ≤ lastPlace format num den := by
      rw [lastPlace]
      omega
    rcases beyond.lt_or_eq with past | same
    · exact Or.inl past
    · rw [← same] at full
      exact Or.inr ⟨same.symm, full.mpr above⟩

theorem round_ratio_value (format : BinaryFormat) (precise : 0 < format.precision) {num den : Nat}
    (positive : 0 < num) {mantissa : Nat} {exponent : Int}
    (found : roundRatio format num den = some (mantissa, exponent)) :
    (mantissa : ℚ) * 2 ^ exponent =
      lastUnits format num den * 2 ^ lastPlace format num den := by
  rw [round_ratio_units format positive] at found
  split at found
  · next full =>
    split at found
    · cases found
    · cases found
      have double : (2 : ℚ) ^ (format.precision - 1) * 2 = 2 ^ format.precision :=
        pow_sub_one_mul precise.ne' 2
      rw [full, zpow_add_one₀ (by norm_num)]
      push_cast
      rw [← double]
      ring
  · split at found
    · cases found
    · cases found
      rfl

theorem last_place_le (format : BinaryFormat) {num den : Nat} (positive : 0 < num)
    (divisor : 0 < den) :
    (2 : ℚ) ^ lastPlace format num den ≤
      num / den * 2 ^ (1 - (format.precision : Int)) + 2 ^ format.minExponent := by
  have low := (binary_exponent_spec positive divisor).1
  rw [lastPlace]
  rcases max_choice (binaryExponent num den - format.precision + 1) format.minExponent with
    chosen | chosen
  · have apart : binaryExponent num den - format.precision + 1 =
        binaryExponent num den + (1 - format.precision) := by ring
    have unit : (0 : ℚ) < 2 ^ format.minExponent := by positivity
    rw [chosen, apart, zpow_add₀ (by norm_num)]
    calc (2 : ℚ) ^ binaryExponent num den * 2 ^ (1 - (format.precision : Int))
        ≤ num / den * 2 ^ (1 - (format.precision : Int)) := by gcongr
      _ ≤ _ := by linarith
  · have part : (0 : ℚ) ≤ num / den * 2 ^ (1 - (format.precision : Int)) := by positivity
    rw [chosen]
    linarith

/-- A rounded magnitude lies within half a unit of its last place from the exact one. -/
theorem round_ratio_near (format : BinaryFormat) (precise : 0 < format.precision) (num : Nat)
    {den mantissa : Nat} {exponent : Int} (divisor : 0 < den)
    (found : roundRatio format num den = some (mantissa, exponent)) :
    (num : ℚ) / den -
        (num / den * 2 ^ (1 - (format.precision : Int)) + 2 ^ format.minExponent) / 2 ≤
        mantissa * 2 ^ exponent ∧
      (mantissa : ℚ) * 2 ^ exponent ≤ num / den +
        (num / den * 2 ^ (1 - (format.precision : Int)) + 2 ^ format.minExponent) / 2 := by
  have least : (0 : ℚ) < 2 ^ format.minExponent := by positivity
  rcases Nat.eq_zero_or_pos num with rfl | positive
  · simp only [roundRatio, beq_self_eq_true, if_true, Option.some.injEq, Prod.mk.injEq] at found
    rw [← found.1, Nat.cast_zero, zero_mul, zero_div, zero_mul, zero_add, zero_add]
    constructor <;> linarith
  have near := last_units_near format num divisor
  have small := last_place_le format positive divisor
  have unit : (0 : ℚ) < 2 ^ lastPlace format num den := by positivity
  rw [sub_le_iff_le_add, div_le_iff₀ unit, ← sub_le_iff_le_add, le_div_iff₀ unit] at near
  rw [round_ratio_value format precise positive found]
  constructor <;> linarith

theorem round_ratio_upper (format : BinaryFormat) (precise : 0 < format.precision) (num : Nat)
    {den mantissa : Nat} {exponent : Int} (divisor : 0 < den)
    (found : roundRatio format num den = some (mantissa, exponent)) :
    (mantissa : ℚ) * 2 ^ exponent ≤ num / den +
      (num / den * 2 ^ (1 - (format.precision : Int)) + 2 ^ format.minExponent) / 2 :=
  (round_ratio_near format precise num divisor found).2

end SchemaCompiler.Decimal
