import SchemaCompiler.Proofs.Decimal.Representable

/-!
Which magnitudes are rounded to a given single: those up to half a unit of its last place away.
Below a power of two the singles are twice as dense, so there it is a quarter.
-/

namespace SchemaCompiler.Decimal

/-! Equal quotients -/

theorem round_half_even_le_of_eq {n d n' d' : Nat} (divisor : 0 < d) (divisor' : 0 < d')
    (same : (n : ℚ) / d = n' / d') : roundHalfEven n d ≤ roundHalfEven n' d' := by
  refine Nat.le_of_not_lt fun less => ?_
  have above : ((roundHalfEven n' d' + 1 : Nat) : ℚ) ≤ roundHalfEven n d := by
    exact_mod_cast Nat.succ_le_of_lt less
  push_cast at above
  -- The two could only differ half way between them, where both are even.
  have tie : (n : ℚ) / d = roundHalfEven n' d' + 1 / 2 := by
    have upper := (round_half_even_near n divisor).2
    have lower := (round_half_even_near n' divisor').1
    rw [← same] at lower
    linarith
  have first := round_half_even_tie divisor tie
  have second := round_half_even_tie divisor' (same ▸ tie)
  omega

theorem round_half_even_congr {n d n' d' : Nat} (divisor : 0 < d) (divisor' : 0 < d')
    (same : (n : ℚ) / d = n' / d') : roundHalfEven n d = roundHalfEven n' d' :=
  Nat.le_antisymm (round_half_even_le_of_eq divisor divisor' same)
    (round_half_even_le_of_eq divisor' divisor same.symm)

variable {num den num' den' : Nat}

/-- Rounding looks at the quotient alone. -/
theorem round_ratio_congr (format : BinaryFormat) (divisor : 0 < den) (divisor' : 0 < den')
    (same : (num : ℚ) / den = num' / den') :
    roundRatio format num den = roundRatio format num' den' := by
  have positiveDen : (0 : ℚ) < den := by exact_mod_cast divisor
  have positiveDen' : (0 : ℚ) < den' := by exact_mod_cast divisor'
  rcases Nat.eq_zero_or_pos num with rfl | positive
  · have zero : num' = 0 := by
      rw [Nat.cast_zero, zero_div, eq_comm, div_eq_zero_iff, or_iff_left positiveDen'.ne'] at same
      exact_mod_cast same
    rw [zero]
    rfl
  · have positive' : 0 < num' := by
      have some : (0 : ℚ) < num / den := div_pos (by exact_mod_cast positive) positiveDen
      rw [same, div_pos_iff_of_pos_right positiveDen'] at some
      exact_mod_cast some
    have leading : binaryExponent num den = binaryExponent num' den' := by
      obtain ⟨low, high⟩ := binary_exponent_spec positive' divisor'
      exact binary_exponent_unique positive divisor (same ▸ low) (same ▸ high)
    have place : lastPlace format num den = lastPlace format num' den' := by
      rw [lastPlace, lastPlace, leading]
    have units : lastUnits format num den = lastUnits format num' den' := by
      have scaled := scale_value 2 num' den' (lastPlace format num' den')
      rw [← same, ← scale_value] at scaled
      have rounded := round_half_even_congr
        (scale_positive 2 (by decide) num' divisor' (lastPlace format num' den'))
        (scale_positive 2 (by decide) num divisor (lastPlace format num' den')) scaled
      rw [lastUnits, lastUnits, place]
      exact rounded.symm
    rw [round_ratio_units format positive, round_ratio_units format positive', units, place]

/-! Units -/

theorem last_units_eq {format : BinaryFormat} (divisor : 0 < den) {units : Nat}
    (low : ((units : ℚ) - 1 / 2) * 2 ^ lastPlace format num den < num / den)
    (high : (num : ℚ) / den < (units + 1 / 2) * 2 ^ lastPlace format num den) :
    lastUnits format num den = units := by
  have unit : (0 : ℚ) < 2 ^ lastPlace format num den := by positivity
  have scaled := scale_value 2 num den (lastPlace format num den)
  have positive := scale_positive 2 (by decide) num divisor (lastPlace format num den)
  rw [← lt_div_iff₀ unit] at low
  rw [← div_lt_iff₀ unit] at high
  rw [Nat.cast_ofNat] at scaled
  rw [← scaled] at low high
  exact Nat.le_antisymm (round_half_even_le positive high) (le_round_half_even positive low)

/-- Less than half the least unit is rounded to zero. -/
theorem round_ratio_tiny {format : BinaryFormat} (precise : 0 < format.precision)
    (ordered : format.minExponent ≤ format.maxExponent) (divisor : 0 < den)
    (tiny : (num : ℚ) / den < 2 ^ format.minExponent / 2) :
    roundRatio format num den = some (0, format.minExponent) := by
  rcases Nat.eq_zero_or_pos num with rfl | positive
  · rfl
  have unit : (0 : ℚ) < 2 ^ format.minExponent := by positivity
  have low := (binary_exponent_spec positive divisor).1
  have leading : binaryExponent num den < format.minExponent :=
    (zpow_lt_zpow_iff_right₀ (by norm_num : (1 : ℚ) < 2)).mp (by linarith)
  have place : lastPlace format num den = format.minExponent := by
    rw [lastPlace]
    omega
  have units : lastUnits format num den = 0 := by
    apply last_units_eq divisor
    · have size : (0 : ℚ) ≤ num / den := by positivity
      rw [place]
      push_cast
      linarith
    · rw [place]
      push_cast
      linarith
  rw [round_ratio_units format positive, units, place, if_neg (Nat.two_pow_pos _).ne,
    if_neg ordered.not_gt]

/-! Values of a format -/

/-- How far below a value the magnitudes that are rounded to it reach. -/
def gapBelow (format : BinaryFormat) (mantissa : Nat) (exponent : Int) : ℚ :=
  if mantissa = 2 ^ (format.precision - 1) ∧ format.minExponent < exponent then 2 ^ exponent / 4
  else 2 ^ exponent / 2

theorem gap_below_bounds (format : BinaryFormat) (mantissa : Nat) (exponent : Int) :
    (2 : ℚ) ^ exponent / 4 ≤ gapBelow format mantissa exponent ∧
      gapBelow format mantissa exponent ≤ 2 ^ exponent / 2 := by
  have unit : (0 : ℚ) < 2 ^ exponent := by positivity
  rw [gapBelow]
  split <;> constructor <;> linarith

variable {format : BinaryFormat} {m : Nat} {e : Int}

theorem round_ratio_of_units (positive : 0 < num) (held : Held format m e)
    (place : lastPlace format num den = e) (units : lastUnits format num den = m) :
    roundRatio format num den = some (m, e) := by
  rw [round_ratio_units format positive, units, place, if_neg held.fits.ne,
    if_neg held.below.not_gt]

theorem two_power_add (a b : Int) : (2 : ℚ) ^ (a + b) = 2 ^ a * 2 ^ b :=
  zpow_add₀ (by norm_num) a b

theorem leading_lt {a b : Int} {x : ℚ} (low : (2 : ℚ) ^ a ≤ x) (high : x < 2 ^ b) : a < b :=
  (zpow_lt_zpow_iff_right₀ (by norm_num)).mp (low.trans_lt high)

variable {bits : Nat}

/-- Less than half a unit away from the value, in its own last place. -/
theorem round_ratio_of_place (held : Held format m e) (positive : 0 < num) (divisor : 0 < den)
    (place : lastPlace format num den = e)
    (low : (m : ℚ) * 2 ^ e - 2 ^ e / 2 < num / den)
    (high : (num : ℚ) / den < m * 2 ^ e + 2 ^ e / 2) :
    roundRatio format num den = some (m, e) := by
  refine round_ratio_of_units positive held place (last_units_eq divisor ?_ ?_)
  · rw [place]
    linarith
  · rw [place]
    linarith

/-- Less than a quarter of a unit below a power of two, the units of the lower place are carried. -/
theorem round_ratio_carried (precise : format.precision = bits + 1) (above : format.minExponent < e)
    (below : e ≤ format.maxExponent) (positive : 0 < num) (divisor : 0 < den)
    (low : (2 : ℚ) ^ bits * 2 ^ e - 2 ^ e / 4 < num / den)
    (high : (num : ℚ) / den < 2 ^ bits * 2 ^ e) :
    roundRatio format num den = some (2 ^ bits, e) := by
  obtain ⟨lower, upper⟩ := binary_exponent_spec positive divisor
  have half : (2 : ℚ) ^ e = 2 * 2 ^ (e - 1) := by
    rw [← zpow_one_add₀ (by norm_num)]
    congr 1
    ring
  have before : binaryExponent num den < bits + e := by
    refine leading_lt lower ?_
    rw [two_power_add, zpow_natCast]
    exact high
  have behind : bits - 1 + e < binaryExponent num den + 1 := by
    have some : (1 : ℚ) ≤ 2 ^ bits := one_le_pow₀ (by norm_num)
    have whole : (0 : ℚ) < 2 ^ e := by positivity
    have scaled := mul_le_mul_of_nonneg_right some whole.le
    refine leading_lt ?_ upper
    rw [two_power_add, zpow_sub_one₀ (by norm_num), zpow_natCast]
    linarith
  have place : lastPlace format num den = e - 1 := by
    rw [lastPlace, precise]
    push_cast
    omega
  have carried : lastUnits format num den = 2 ^ format.precision := by
    have double : ((2 ^ format.precision : Nat) : ℚ) = 2 ^ bits * 2 := by
      rw [precise]
      push_cast
      rw [pow_succ]
    have unit : (0 : ℚ) < 2 ^ (e - 1) := by positivity
    rw [half] at low high
    refine last_units_eq divisor ?_ ?_
    · rw [place, double]
      linarith
    · rw [place, double]
      linarith
  have room : ¬ format.maxExponent < e - 1 + 1 := by
    rw [Int.sub_add_cancel]
    exact below.not_gt
  rw [round_ratio_units format positive, if_pos carried, place, if_neg room, Int.sub_add_cancel,
    precise, Nat.add_sub_cancel]

/-- Strictly between the halves, or the quarter, a magnitude is rounded to the value. -/
theorem round_ratio_of_between (precise : format.precision = bits + 1) (held : Held format m e)
    (positive : 0 < num) (divisor : 0 < den)
    (low : (m : ℚ) * 2 ^ e - gapBelow format m e < num / den)
    (high : (num : ℚ) / den < m * 2 ^ e + 2 ^ e / 2) :
    roundRatio format num den = some (m, e) := by
  have unit : (0 : ℚ) < 2 ^ e := by positivity
  have fits : (m : ℚ) + 1 ≤ 2 ^ bits * 2 := by
    have most := held.fits
    rw [precise, pow_succ] at most
    exact_mod_cast most
  have least := held.above
  have narrow := (gap_below_bounds format m e).2
  obtain ⟨lower, upper⟩ := binary_exponent_spec positive divisor
  have leading : binaryExponent num den < bits + 1 + e := by
    have scaled := mul_le_mul_of_nonneg_right fits unit.le
    refine leading_lt lower ?_
    rw [two_power_add, zpow_add_one₀ (by norm_num), zpow_natCast]
    linarith
  -- The last place is that of the value unless the magnitude is below its power of two.
  have within (full : e = format.minExponent ∨ bits + e < binaryExponent num den + 1) :
      roundRatio format num den = some (m, e) := by
    have place : lastPlace format num den = e := by
      rw [lastPlace, precise]
      push_cast
      omega
    exact round_ratio_of_place held positive divisor place (by linarith) high
  by_cases subnormal : e = format.minExponent
  · exact within (.inl subnormal)
  by_cases reached : (2 : ℚ) ^ (bits + e) ≤ num / den
  · exact within (.inr (leading_lt reached upper))
  rw [not_le, two_power_add, zpow_natCast] at reached
  have filled : 2 ^ bits ≤ m := by
    have full := held.full.resolve_left subnormal
    rwa [precise, Nat.add_sub_cancel] at full
  have power : m = 2 ^ bits := by
    refine filled.antisymm' (Nat.le_of_not_lt fun more => ?_)
    have above : (2 : ℚ) ^ bits + 1 ≤ m := by exact_mod_cast more
    have scaled := mul_le_mul_of_nonneg_right above unit.le
    linarith
  have normal : format.minExponent < e := by omega
  have gap : gapBelow format m e = 2 ^ e / 4 := by
    refine if_pos ⟨?_, normal⟩
    rw [precise, Nat.add_sub_cancel, power]
  rw [gap, power, Nat.cast_pow, Nat.cast_ofNat] at low
  rw [power]
  exact round_ratio_carried precise normal held.below positive divisor low reached

/-- No magnitude beyond the halves, or the quarter, is rounded to the value. -/
theorem round_ratio_within (precise : format.precision = bits + 1) (positive : 0 < num)
    (divisor : 0 < den) (found : roundRatio format num den = some (m, e)) :
    (m : ℚ) * 2 ^ e - gapBelow format m e ≤ num / den ∧
      (num : ℚ) / den ≤ m * 2 ^ e + 2 ^ e / 2 := by
  obtain ⟨lower, upper⟩ := binary_exponent_spec positive divisor
  have near := last_units_near format num divisor
  have unit : (0 : ℚ) < 2 ^ lastPlace format num den := by positivity
  rw [sub_le_iff_le_add, div_le_iff₀ unit, ← sub_le_iff_le_add, le_div_iff₀ unit] at near
  have least : format.minExponent ≤ lastPlace format num den ∧
      binaryExponent num den - bits ≤ lastPlace format num den ∧
      (lastPlace format num den = format.minExponent ∨
        lastPlace format num den = binaryExponent num den - bits) := by
    rw [lastPlace, precise]
    push_cast
    omega
  rw [round_ratio_units format positive] at found
  generalize lastPlace format num den = place at *
  have double : ((2 ^ format.precision : Nat) : ℚ) = 2 ^ bits * 2 := by
    rw [precise]
    push_cast
    rw [pow_succ]
  split at found
  · next full =>
    split at found
    · cases found
    · cases found
      have gap : gapBelow format (2 ^ (format.precision - 1)) (place + 1) = 2 ^ (place + 1) / 4 :=
        if_pos ⟨rfl, by omega⟩
      have below : (num : ℚ) / den < 2 ^ (bits + 1 + place) := by
        refine upper.trans_le (zpow_le_zpow_right₀ (by norm_num) ?_)
        omega
      have size : ((2 ^ (format.precision - 1) : Nat) : ℚ) = 2 ^ bits := by
        rw [precise, Nat.add_sub_cancel]
        norm_cast
      rw [two_power_add, zpow_add_one₀ (by norm_num), zpow_natCast] at below
      rw [gap, zpow_add_one₀ (by norm_num), size]
      rw [full, double] at near
      constructor <;> linarith
  · split at found
    · cases found
    · cases found
      refine ⟨?_, by linarith [near.1]⟩
      rw [gapBelow]
      split
      · next power =>
        have reached : (2 : ℚ) ^ (bits + e) ≤ num / den := by
          refine le_trans (zpow_le_zpow_right₀ (by norm_num) ?_) lower
          omega
        have size : ((lastUnits format num den : Nat) : ℚ) = 2 ^ bits := by
          rw [power.1, precise, Nat.add_sub_cancel]
          norm_cast
        rw [two_power_add, zpow_natCast] at reached
        rw [size]
        linarith
      · linarith [near.2]

end SchemaCompiler.Decimal
