import SchemaCompiler.Proofs.Decimal.RoundingInterval
import SchemaCompiler.Proofs.Decimal.SingleText

/-!
Which decimals read back as a single. A numeral becomes the nearest double, and that the nearest
single. The first rounding moves a magnitude by far less than a thousandth of the single's unit,
so only magnitudes that close to an end of the single's interval are left undecided.
-/

namespace SchemaCompiler.Decimal

open Text

/-! The double of a numeral -/

theorem doubles_below : (2 : ℚ) ^ 1024 - 2 ^ 970 ≤ 10 ^ (400 : Int) := by
  have subtracted : (0 : ℚ) ≤ 2 ^ 970 := by positivity
  calc (2 : ℚ) ^ 1024 - 2 ^ 970 ≤ 2 ^ (3 * 342) :=
        (sub_le_self _ subtracted).trans (pow_le_pow_right₀ (by norm_num) (by norm_num))
    _ ≤ 10 ^ 342 := by
        rw [pow_mul]
        exact pow_le_pow_left₀ (by norm_num) (by norm_num) 342
    _ ≤ 10 ^ (400 : Int) := by
        rw [← zpow_natCast]
        exact zpow_le_zpow_right₀ (by norm_num) (by norm_num)

theorem below_doubles : (10 : ℚ) ^ (-400 : Int) ≤ 2 ^ double.minExponent / 2 := by
  have half : (2 : ℚ) ^ double.minExponent / 2 = 2 ^ (-1075 : Int) := by
    have step : (2 : ℚ) ^ (-1074 : Int) = 2 ^ (-1075 : Int) * 2 :=
      zpow_add_one₀ (by norm_num) (-1075)
    rw [double, step, mul_div_cancel_right₀ _ (by norm_num)]
  calc (10 : ℚ) ^ (-400 : Int) ≤ (2 ^ (3 : Int)) ^ (-400 : Int) := by
        rw [zpow_neg, zpow_neg]
        refine inv_anti₀ (by positivity) ?_
        exact zpow_le_zpow_left₀ (by norm_num) (by norm_num) (by norm_num)
    _ = 2 ^ (-1200 : Int) := by
        rw [← zpow_mul]
        norm_num
    _ ≤ 2 ^ double.minExponent / 2 := by
        rw [half]
        exact zpow_le_zpow_right₀ (by norm_num) (by norm_num)

/-- A numeral becomes the double nearest to its magnitude. -/
theorem to_double_of_ratio (n : Numeral) {num den : Nat} (divisor : 0 < den)
    (value : (num : ℚ) / den = n.magnitude) :
    n.toDouble = .ofRatio double n.negative num den := by
  rcases to_double_cases n with ⟨small, zero⟩ | ⟨large, infinite⟩ |
    ⟨num', den', divisor', value', found⟩
  · have tiny := small.trans_le below_doubles
    rw [← value] at tiny
    rw [zero, FloatValue.ofRatio, FloatValue.ofRatio,
      round_ratio_tiny (by decide) (by decide) divisor tiny]
    rfl
  · have beyond := doubles_below.trans large
    rw [← value, ← double_none_iff num divisor] at beyond
    rw [infinite, FloatValue.ofRatio, beyond]
  · rw [found, FloatValue.ofRatio, FloatValue.ofRatio,
      round_ratio_congr double divisor' divisor (value'.trans value.symm)]

theorem magnitude_ratio (n : Numeral) :
    ∃ num den : Nat, 0 < den ∧ (num : ℚ) / den = n.magnitude := by
  have size : 0 ≤ n.magnitude := by
    rw [Numeral.magnitude]
    positivity
  obtain ⟨num, same⟩ := Int.eq_ofNat_of_zero_le (Rat.num_nonneg.mpr size)
  have value := Rat.num_div_den n.magnitude
  rw [same, Int.cast_natCast] at value
  exact ⟨num, n.magnitude.den, n.magnitude.den_pos, value⟩

/-- The double depends on the sign and the magnitude alone. -/
theorem to_double_congr {n other : Numeral} (sign : n.negative = other.negative)
    (value : n.magnitude = other.magnitude) : n.toDouble = other.toDouble := by
  obtain ⟨num, den, divisor, same⟩ := magnitude_ratio n
  rw [to_double_of_ratio n divisor same, to_double_of_ratio other divisor (same.trans value), sign]

/-! Singles and the doubles that hold them -/

/-- A single as the double of the same value. -/
def widened (negative : Bool) (mantissa : Nat) (exponent : Int) : FloatValue :=
  .ofRatio double negative (ratioOf mantissa exponent).1 (ratioOf mantissa exponent).2

variable {m : Nat} {e : Int} {negative : Bool}

theorem widened_finite (held : Held single m e) (negative : Bool) :
    ∃ mantissa exponent, widened negative m e = .finite negative mantissa exponent ∧
      (mantissa : ℚ) * 2 ^ exponent = m * 2 ^ e := by
  have fits : m < 2 ^ double.precision := held.fits.trans (by decide)
  have above : double.minExponent ≤ e := le_trans (by decide) held.above
  have below : e ≤ double.maxExponent := held.below.trans (by decide)
  obtain ⟨mantissa, exponent, found, same⟩ := round_ratio_exact (by decide) (by decide) fits
    above below (ratio_of_positive m e) (ratio_of_value m e)
  exact ⟨mantissa, exponent, by rw [widened, FloatValue.ofRatio, found], same⟩

theorem widened_injective {negative' : Bool} {m' : Nat} {e' : Int} (held : Held single m e)
    (held' : Held single m' e') (same : widened negative m e = widened negative' m' e') :
    negative = negative' ∧ m = m' ∧ e = e' := by
  obtain ⟨mantissa, exponent, form, value⟩ := widened_finite held negative
  obtain ⟨mantissa', exponent', form', value'⟩ := widened_finite held' negative'
  rw [form, form'] at same
  cases same
  exact ⟨rfl, held_unique held held' (value.symm.trans value')⟩

theorem widened_magnitude (held : Held single m e) (negative : Bool) :
    (widened negative m e).magnitude = m * 2 ^ e := by
  obtain ⟨mantissa, exponent, form, same⟩ := widened_finite held negative
  rw [form, FloatValue.magnitude, same]

/-- What a value is narrowed to, if it is finite, is a single. -/
theorem single_form {x narrowed : FloatValue} (found : toSingle x = .ok narrowed)
    (finite : narrowed.isFinite) :
    ∃ negative m e, Held single m e ∧ narrowed = widened negative m e := by
  rw [to_single_ok_iff] at found
  cases x with
  | infinite negative =>
      cases found
      cases finite
  | notANumber =>
      cases found
      cases finite
  | finite negative mantissa exponent =>
      simp only [FloatValue.toSingle?] at found
      split at found
      · next m e rounded =>
        have held := round_ratio_held (by decide) (by decide)
          (ratio_of_positive mantissa exponent) rounded
        exact ⟨negative, m, e, held, (Option.some.inj found).symm⟩
      · cases found

/-! Reading back -/

/-- The single nearest to the double nearest to a decimal is the given value. -/
def ReadsBack (x : FloatValue) (n : Numeral) : Prop := toSingle n.toDouble = .ok x

theorem double_error (held : Held single m e) (magnitude : ℚ) :
    (magnitude * 2 ^ (1 - (double.precision : Int)) + 2 ^ double.minExponent) / 2 ≤
      magnitude / 2 ^ 53 + 2 ^ e / 2 ^ 21 := by
  have share : (2 : ℚ) ^ (1 - (double.precision : Int)) = 1 / 2 ^ 52 := by
    norm_num [double]
  have least : (2 : ℚ) ^ double.minExponent ≤ 2 ^ e * 2 ^ (-20 : Int) := by
    rw [← two_power_add]
    refine zpow_le_zpow_right₀ (by norm_num) ?_
    have above : (-149 : Int) ≤ e := held.above
    change -1074 ≤ e + -20
    omega
  rw [share]
  norm_num at least ⊢
  linarith

theorem single_room (held : Held single m e) : ((m : ℚ) + 1) * 2 ^ e ≤ 2 ^ 24 * 2 ^ e := by
  have fits : (m : ℚ) + 1 ≤ 2 ^ 24 := by exact_mod_cast held.fits
  gcongr

theorem single_unit_le (some : 0 < m) (e : Int) : (2 : ℚ) ^ e ≤ m * 2 ^ e := by
  have least : (1 : ℚ) ≤ m := by exact_mod_cast some
  exact le_mul_of_one_le_left (by positivity) least

/-- Well within the interval a numeral reads back as the single. -/
theorem numeral_reads_back (held : Held single m e) (some : 0 < m) (n : Numeral)
    (low : (m : ℚ) * 2 ^ e - gapBelow single m e + 2 ^ e / 1000 < n.magnitude)
    (high : n.magnitude < m * 2 ^ e + 2 ^ e / 2 - 2 ^ e / 1000) :
    ReadsBack (widened n.negative m e) n := by
  obtain ⟨num, den, divisor, value⟩ := magnitude_ratio n
  have unit : (0 : ℚ) < 2 ^ e := by positivity
  have least := single_unit_le some e
  have gap := (gap_below_bounds single m e).2
  have error := double_error held n.magnitude
  have room := single_room held
  rw [ReadsBack, to_single_ok_iff, to_double_of_ratio n divisor value, FloatValue.ofRatio]
  cases rounded : roundRatio double num den with
  | none =>
      -- The doubles reach far beyond the greatest single.
      have most := magnitude_upper held.fits held.below
      have top : (2 : ℚ) ^ e ≤ 2 ^ single.maxExponent :=
        zpow_le_zpow_right₀ (by norm_num) held.below
      rw [double_none_iff num divisor, value] at rounded
      have beyond := singles_below_doubles.trans_le rounded
      norm_num [single] at most top beyond
      linarith only [high, most, top, beyond, unit]
  | some parts =>
      obtain ⟨mantissa, exponent⟩ := parts
      have near := round_ratio_near double (by decide) num divisor rounded
      rw [value] at near
      have positive : 0 < (ratioOf mantissa exponent).1 := by
        refine ratio_of_fst_positive (Nat.pos_of_ne_zero ?_) exponent
        rintro rfl
        norm_num at near
        linarith
      have found := round_ratio_of_between rfl held positive (ratio_of_positive mantissa exponent)
        (by rw [ratio_of_value]; linarith) (by rw [ratio_of_value]; linarith)
      simp only [FloatValue.toSingle?, found, widened]

/-- What reads back as the single is not beyond the interval. -/
theorem numeral_reads_within (held : Held single m e) (some : 0 < m) {n : Numeral}
    (read : ReadsBack (widened negative m e) n) :
    n.negative = negative ∧ (m : ℚ) * 2 ^ e - gapBelow single m e - 2 ^ e / 1000 ≤ n.magnitude ∧
      n.magnitude ≤ m * 2 ^ e + 2 ^ e / 2 + 2 ^ e / 1000 := by
  obtain ⟨num, den, divisor, value⟩ := magnitude_ratio n
  obtain ⟨_, _, form, _⟩ := widened_finite held negative
  rw [ReadsBack, to_single_ok_iff, to_double_of_ratio n divisor value,
    FloatValue.ofRatio] at read
  split at read
  · next mantissa exponent rounded =>
    have near := round_ratio_near double (by decide) num divisor rounded
    rw [value] at near
    simp only [FloatValue.toSingle?] at read
    split at read
    · next m' e' narrowed =>
      have held' := round_ratio_held (by decide) (by decide)
        (ratio_of_positive mantissa exponent) narrowed
      obtain ⟨rfl, rfl, rfl⟩ := widened_injective held held' (Option.some.inj read).symm
      have positive : 0 < (ratioOf mantissa exponent).1 := by
        refine Nat.pos_of_ne_zero fun zero => ?_
        rw [zero] at narrowed
        cases narrowed
        exact lt_irrefl 0 some
      have within := round_ratio_within rfl positive (ratio_of_positive mantissa exponent) narrowed
      rw [ratio_of_value] at within
      have error := double_error held n.magnitude
      have room := single_room held
      have unit : (0 : ℚ) < 2 ^ e := by positivity
      exact ⟨rfl, by linarith, by linarith⟩
    · cases read
  · rw [form] at read
    cases read

theorem reads_back_positive (held : Held single m e) (some : 0 < m) {n : Numeral}
    (read : ReadsBack (widened negative m e) n) : 0 < n.magnitude := by
  have above := (numeral_reads_within held some read).2.1
  have gap := (gap_below_bounds single m e).2
  have unit : (0 : ℚ) < 2 ^ e := by positivity
  have least := single_unit_le some e
  linarith

/-! The texts that are tried are numbers -/

/-- A number of moderate size is in range unless it has very many digits. -/
theorem in_range_of_size {n : Numeral} {size : Nat} (short : n.coefficient < 10 ^ size)
    (few : size ≤ 10 ^ 17) (low : (10 : ℚ) ^ (-100 : Int) ≤ n.magnitude)
    (high : n.magnitude < 10 ^ (100 : Int)) : n.inRange = true := by
  have positive : 0 < n.coefficient := by
    refine Nat.pos_of_ne_zero fun zero => ?_
    rw [Numeral.magnitude, zero, Nat.cast_zero, zero_mul] at low
    exact absurd low (not_le.mpr (by positivity))
  have some : 0 < size := by
    refine Nat.pos_of_ne_zero ?_
    rintro rfl
    omega
  have length : digitLength n.coefficient ≤ size :=
    (Nat.length_toDigits_le_iff (by decide) some).mpr short
  obtain ⟨lower, upper⟩ := magnitude_digits positive
  have first := (zpow_lt_zpow_iff_right₀ (by norm_num)).mp (low.trans_lt upper)
  have last := (zpow_lt_zpow_iff_right₀ (by norm_num)).mp (lower.trans_lt high)
  rw [Numeral.inRange, Bool.and_eq_true, decide_eq_true_iff, decide_eq_true_iff,
    Numeral.lowestPower, Numeral.highestPower]
  omega

theorem single_size (held : Held single m e) (some : 0 < m) :
    (10 : ℚ) ^ (-50 : Int) < m * 2 ^ e ∧ (m : ℚ) * 2 ^ e < 10 ^ (50 : Int) := by
  have unit : (2 : ℚ) ^ (-149 : Int) ≤ 2 ^ e :=
    zpow_le_zpow_right₀ (by norm_num) held.above
  have least := unit.trans (single_unit_le some e)
  have most := magnitude_upper held.fits held.below
  constructor
  · refine lt_of_lt_of_le ?_ least
    norm_num
  · refine most.trans_lt ?_
    norm_num [single]

/-- Up to nine digits of a number of moderate size are read as the number they write. -/
theorem significant_read {count mantissa : Nat} {exponent : Int} (some : 0 < count)
    (few : count ≤ 9) (negative : Bool) (low : (10 : ℚ) ^ (-50 : Int) < mantissa * 2 ^ exponent)
    (high : (mantissa : ℚ) * 2 ^ exponent < 10 ^ (50 : Int)) :
    ∃ n : Numeral, n.negative = negative ∧ n.magnitude =
        tried count mantissa exponent * 10 ^ lastPower count mantissa exponent ∧
      Quantity.read? (significantText count (.finite negative mantissa exponent)) =
        Option.some (.number n) := by
  have positive : 0 < mantissa := by
    refine Nat.pos_of_ne_zero ?_
    rintro rfl
    norm_num at low
  obtain ⟨n, sign, magnitude, short, read⟩ :=
    significant_number some negative exponent positive
  refine ⟨n, sign, magnitude, ?_⟩
  rw [read, if_pos]
  obtain ⟨leading, beyond⟩ := last_power_spec count exponent positive
  have top := (zpow_lt_zpow_iff_right₀ (by norm_num : (1 : ℚ) < 10)).mp (leading.trans_lt high)
  have bottom := (zpow_lt_zpow_iff_right₀ (by norm_num : (1 : ℚ) < 10)).mp (low.trans beyond)
  have length : digitLength (tried count mantissa exponent) ≤ count + 1 := by
    refine (Nat.length_toDigits_le_iff (by decide) (Nat.succ_pos _)).mpr ?_
    exact (tried_le_power count exponent positive).trans_lt
      (Nat.pow_lt_pow_right (by decide) (Nat.lt_succ_self _))
  -- The text has so few characters that the coefficient it is read with is small.
  have kept := of_coefficient_length (tried count mantissa exponent)
    (lastPower count mantissa exponent)
  have power : (Digits.ofCoefficient (tried count mantissa exponent)
      (lastPower count mantissa exponent)).power = lastPower count mantissa exponent +
        digitLength (tried count mantissa exponent) - 1 := rfl
  have size := digits_text_length ⟨count, false⟩ (.ofCoefficient
    (tried count mantissa exponent) (lastPower count mantissa exponent))
  have least : (1 : ℚ) ≤ tried count mantissa exponent := by
    exact_mod_cast tried_positive exponent some positive
  have most : (tried count mantissa exponent : ℚ) ≤ 10 ^ count := by
    exact_mod_cast tried_le_power count exponent positive
  apply in_range_of_size short (by omega)
  · rw [magnitude]
    calc (10 : ℚ) ^ (-100 : Int) ≤ 1 * 10 ^ lastPower count mantissa exponent := by
          rw [one_mul]
          exact zpow_le_zpow_right₀ (by norm_num) (by omega)
      _ ≤ _ := by gcongr
  · rw [magnitude]
    calc (tried count mantissa exponent : ℚ) * 10 ^ lastPower count mantissa exponent
        ≤ 10 ^ count * 10 ^ lastPower count mantissa exponent := by gcongr
      _ = 10 ^ ((count : Int) + lastPower count mantissa exponent) := by
          rw [ten_power_add, zpow_natCast]
      _ < 10 ^ (100 : Int) := zpow_lt_zpow_right₀ (by norm_num) (by omega)

end SchemaCompiler.Decimal
