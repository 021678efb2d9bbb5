import SchemaCompiler.Proofs.Decimal.Narrowing

/-!
Values that a format holds. Rounding gives each of them in one form only, and rounds it to itself,
so that narrowing a value a second time changes nothing.
-/

namespace SchemaCompiler.Decimal

/-- The form in which a format holds a magnitude: the exponent is as small as it can be. -/
structure Held (format : BinaryFormat) (mantissa : Nat) (exponent : Int) : Prop where
  fits : mantissa < 2 ^ format.precision
  above : format.minExponent ≤ exponent
  below : exponent ≤ format.maxExponent
  full : exponent = format.minExponent ∨ 2 ^ (format.precision - 1) ≤ mantissa

variable {format : BinaryFormat} {num den mantissa : Nat} {exponent : Int}

theorem binary_exponent_unique (positive : 0 < num) (divisor : 0 < den) {leading : Int}
    (low : (2 : ℚ) ^ leading ≤ num / den) (high : (num : ℚ) / den < 2 ^ (leading + 1)) :
    binaryExponent num den = leading := by
  obtain ⟨lower, upper⟩ := binary_exponent_spec positive divisor
  have up := (zpow_lt_zpow_iff_right₀ (by norm_num : (1 : ℚ) < 2)).mp (low.trans_lt upper)
  have down := (zpow_lt_zpow_iff_right₀ (by norm_num : (1 : ℚ) < 2)).mp (lower.trans_lt high)
  omega

/-- A magnitude that is a whole number of units of its last place is that number of them. -/
theorem last_units_whole (divisor : 0 < den) {units : Nat}
    (whole : (num : ℚ) / den = units * 2 ^ lastPlace format num den) :
    lastUnits format num den = units := by
  have unit : (0 : ℚ) < 2 ^ lastPlace format num den := by positivity
  have near := last_units_near format num divisor
  rw [whole, mul_div_cancel_right₀ _ unit.ne'] at near
  have low : (units : ℚ) < (lastUnits format num den + 1 : Nat) := by
    push_cast
    linarith
  have high : (lastUnits format num den : ℚ) < (units + 1 : Nat) := by
    push_cast
    linarith
  have := Nat.lt_succ_iff.mp (by exact_mod_cast low : units < lastUnits format num den + 1)
  have := Nat.lt_succ_iff.mp (by exact_mod_cast high : lastUnits format num den < units + 1)
  omega

/-- Above the least exponent the units at the last place fill the mantissa. -/
theorem last_units_filled (precise : 0 < format.precision) (positive : 0 < num)
    (divisor : 0 < den) (above : format.minExponent < lastPlace format num den) :
    2 ^ (format.precision - 1) ≤ lastUnits format num den := by
  have unit : (0 : ℚ) < 2 ^ lastPlace format num den := by positivity
  have low := (binary_exponent_spec positive divisor).1
  have leading : binaryExponent num den =
      ((format.precision - 1 : Nat) : Int) + lastPlace format num den := by
    rw [lastPlace] at above ⊢
    omega
  rw [leading, zpow_add₀ (by norm_num), ← le_div_iff₀ unit, zpow_natCast] at low
  have near := (last_units_near format num divisor).1
  have bound : ((2 ^ (format.precision - 1) : Nat) : ℚ) < (lastUnits format num den + 1 : Nat) := by
    push_cast
    linarith
  exact Nat.lt_succ_iff.mp (by exact_mod_cast bound)

/-- What a magnitude is rounded to is in the form of the format. -/
theorem round_ratio_held (precise : 0 < format.precision)
    (ordered : format.minExponent ≤ format.maxExponent) (divisor : 0 < den)
    (found : roundRatio format num den = some (mantissa, exponent)) :
    Held format mantissa exponent := by
  rcases Nat.eq_zero_or_pos num with rfl | positive
  · cases found
    exact ⟨Nat.two_pow_pos _, le_refl _, ordered, Or.inl rfl⟩
  have place : format.minExponent ≤ lastPlace format num den := by
    rw [lastPlace]
    exact le_max_right _ _
  have most := last_units_le format positive divisor
  rw [round_ratio_units format positive] at found
  split at found
  · next carried =>
    split at found
    · cases found
    · next within =>
      cases found
      refine ⟨?_, by omega, by omega, Or.inr le_rfl⟩
      exact Nat.pow_lt_pow_right (by norm_num) (by omega)
  · next fits =>
    split at found
    · cases found
    · next within =>
      cases found
      refine ⟨by omega, place, by omega, ?_⟩
      rcases place.lt_or_eq with above | least
      · exact Or.inr (last_units_filled precise positive divisor above)
      · exact Or.inl least.symm

theorem binary_exponent_scaled (some : 0 < mantissa) (positive : 0 < num) (divisor : 0 < den)
    (value : (num : ℚ) / den = mantissa * 2 ^ exponent) :
    binaryExponent num den = Nat.log2 mantissa + exponent := by
  have unit : (0 : ℚ) < 2 ^ exponent := by positivity
  have low : ((2 : ℚ) ^ Nat.log2 mantissa) ≤ mantissa := by
    exact_mod_cast Nat.log2_self_le some.ne'
  have high : (mantissa : ℚ) < 2 ^ (Nat.log2 mantissa + 1) := by
    exact_mod_cast (Nat.lt_log2_self : mantissa < 2 ^ (Nat.log2 mantissa + 1))
  apply binary_exponent_unique positive divisor
  · rw [value, zpow_add₀ (by norm_num), zpow_natCast]
    gcongr
  · have split : (Nat.log2 mantissa : Int) + exponent + 1 =
        ((Nat.log2 mantissa + 1 : Nat) : Int) + exponent := by
      push_cast
      ring
    rw [value, split, zpow_add₀ (by norm_num), zpow_natCast]
    gcongr

theorem positive_of_value (some : 0 < mantissa)
    (value : (num : ℚ) / den = mantissa * 2 ^ exponent) : 0 < num := by
  refine Nat.pos_of_ne_zero fun zero => ?_
  have room : (0 : ℚ) < mantissa * 2 ^ exponent := by positivity
  rw [← value, zero, Nat.cast_zero, zero_div] at room
  exact lt_irrefl 0 room

/-- What a format holds is rounded to itself, however it is given as a quotient. -/
theorem round_ratio_of_held (held : Held format mantissa exponent) (divisor : 0 < den)
    (value : (num : ℚ) / den = mantissa * 2 ^ exponent) :
    roundRatio format num den = some (mantissa, exponent) := by
  rcases Nat.eq_zero_or_pos mantissa with rfl | some
  · have zero : num = 0 := by
      rw [Nat.cast_zero, zero_mul, div_eq_zero_iff] at value
      rcases value with zero | none
      · exact_mod_cast zero
      · exact absurd (by exact_mod_cast none) divisor.ne'
    have least : exponent = format.minExponent := by
      rcases held.full with least | filled
      · exact least
      · exact absurd filled (by simp)
    simp [roundRatio, zero, least]
  have positive := positive_of_value some value
  have leading := binary_exponent_scaled some positive divisor value
  have digits : Nat.log2 mantissa < format.precision := (Nat.log2_lt some.ne').mpr held.fits
  have place : lastPlace format num den = exponent := by
    rw [lastPlace, leading]
    rcases held.full with least | filled
    · omega
    · have more : format.precision - 1 ≤ Nat.log2 mantissa := (Nat.le_log2 some.ne').mpr filled
      have := held.above
      omega
  have units : lastUnits format num den = mantissa :=
    last_units_whole divisor (by rw [place, value])
  rw [round_ratio_units format positive, units, place, if_neg held.fits.ne,
    if_neg (not_lt.mpr held.below)]

/-- A format holds each magnitude in one form. -/
theorem held_unique {mantissa' : Nat} {exponent' : Int} (held : Held format mantissa exponent)
    (held' : Held format mantissa' exponent')
    (same : (mantissa : ℚ) * 2 ^ exponent = mantissa' * 2 ^ exponent') :
    mantissa = mantissa' ∧ exponent = exponent' := by
  have divisor := ratio_of_positive mantissa exponent
  have value := ratio_of_value mantissa exponent
  have rounded := round_ratio_of_held held divisor value
  rw [round_ratio_of_held held' divisor (value.trans same)] at rounded
  cases rounded
  exact ⟨rfl, rfl⟩

/-- No magnitude with few enough digits exceeds the greatest of the format. -/
theorem magnitude_upper (fits : mantissa < 2 ^ format.precision)
    (below : exponent ≤ format.maxExponent) :
    (mantissa : ℚ) * 2 ^ exponent ≤ (2 ^ format.precision - 1) * 2 ^ format.maxExponent := by
  have most : (mantissa : ℚ) ≤ 2 ^ format.precision - 1 := by
    have := Nat.succ_le_of_lt fits
    rw [le_sub_iff_add_le]
    exact_mod_cast this
  have room : (0 : ℚ) ≤ 2 ^ format.precision - 1 := le_trans (Nat.cast_nonneg _) most
  gcongr
  norm_num

/-- A magnitude is a whole number of units of any lower place. -/
theorem whole_units {place : Int} (lower : place ≤ exponent) :
    ∃ units : Nat, (mantissa : ℚ) * 2 ^ exponent = units * 2 ^ place := by
  obtain ⟨gap, apart⟩ := Int.eq_ofNat_of_zero_le (sub_nonneg.mpr lower)
  have split : exponent = (gap : Int) + place := by omega
  refine ⟨mantissa * 2 ^ gap, ?_⟩
  rw [split, zpow_add₀ (by norm_num), zpow_natCast]
  push_cast
  ring

/-- A magnitude with few enough digits is rounded to itself, though perhaps in another form. -/
theorem round_ratio_exact (precise : 0 < format.precision)
    (ordered : format.minExponent ≤ format.maxExponent) (fits : mantissa < 2 ^ format.precision)
    (above : format.minExponent ≤ exponent) (below : exponent ≤ format.maxExponent)
    (divisor : 0 < den) (value : (num : ℚ) / den = mantissa * 2 ^ exponent) :
    ∃ m e, roundRatio format num den = some (m, e) ∧ (m : ℚ) * 2 ^ e = mantissa * 2 ^ exponent := by
  rcases Nat.eq_zero_or_pos mantissa with rfl | some
  · have held : Held format 0 format.minExponent :=
      ⟨Nat.two_pow_pos _, le_refl _, ordered, Or.inl rfl⟩
    exact ⟨0, _, round_ratio_of_held held divisor (by simpa using value), by simp⟩
  have positive := positive_of_value some value
  have leading := binary_exponent_scaled some positive divisor value
  have digits : Nat.log2 mantissa < format.precision := (Nat.log2_lt some.ne').mpr fits
  cases rounded : roundRatio format num den with
  | none =>
      rw [round_ratio_none_iff format precise ordered num divisor, value] at rounded
      have upper := magnitude_upper fits below
      have unit : (0 : ℚ) < 2 ^ format.maxExponent := by positivity
      linarith
  | some parts =>
      refine ⟨parts.1, parts.2, rfl, ?_⟩
      -- The last place of the rounding is no higher than that of the magnitude.
      have place : lastPlace format num den ≤ exponent := by
        rw [lastPlace, leading]
        omega
      obtain ⟨units, whole⟩ : ∃ units : Nat,
          (mantissa : ℚ) * 2 ^ exponent = units * 2 ^ lastPlace format num den := whole_units place
      rw [round_ratio_value format precise positive rounded,
        last_units_whole divisor (value.trans whole), whole]

/-! Singles -/

/-- A single is held by a double of the same magnitude, and is narrowed from it unchanged. -/
theorem to_single_idempotent {x narrowed : FloatValue} (found : x.toSingle? = some narrowed) :
    narrowed.toSingle? = some narrowed := by
  cases x with
  | infinite negative =>
      cases found
      rfl
  | notANumber =>
      cases found
      rfl
  | finite negative mantissa exponent =>
      simp only [FloatValue.toSingle?] at found
      cases rounded : roundRatio single (ratioOf mantissa exponent).1
          (ratioOf mantissa exponent).2 with
      | none => simp [rounded] at found
      | some parts =>
          obtain ⟨m, e⟩ := parts
          have held := round_ratio_held (by decide) (by decide)
            (ratio_of_positive mantissa exponent) rounded
          have fits : m < 2 ^ double.precision := held.fits.trans (by decide)
          have above : double.minExponent ≤ e := le_trans (by decide) held.above
          have below : e ≤ double.maxExponent := held.below.trans (by decide)
          obtain ⟨wide, place, widened, same⟩ := round_ratio_exact (by decide) (by decide) fits
            above below (ratio_of_positive m e) (ratio_of_value m e)
          have again : roundRatio single (ratioOf wide place).1 (ratioOf wide place).2 =
              some (m, e) :=
            round_ratio_of_held held (ratio_of_positive wide place)
              ((ratio_of_value wide place).trans same)
          simp only [rounded, FloatValue.ofRatio, widened, Option.some.injEq] at found
          simp [← found, FloatValue.toSingle?, again, FloatValue.ofRatio, widened]

end SchemaCompiler.Decimal
