import SchemaCompiler.Proofs.Decimal.Powers
import SchemaCompiler.Proofs.Decimal.SingleReading

/-!
The magnitude that is tried with a given number of significant digits is the nearest one. Another
one with as many digits can read back as the single when the nearest does not only if it is on the
other side of the single: below a power of two, where the single's interval ends earlier than
above it, that happens for three powers of two.
-/

namespace SchemaCompiler.Decimal

/-! Magnitudes with few digits -/

/-- At most `count` significant digits write the magnitude. -/
def DigitsWithin (count : Nat) (magnitude : ℚ) : Prop :=
  ∃ (coefficient : Nat) (power : Int), coefficient < 10 ^ count ∧
    magnitude = coefficient * 10 ^ power

variable {count mantissa : Nat} {exponent : Int}

theorem digits_within_mono {more : Nat} {magnitude : ℚ} (fewer : count ≤ more)
    (within : DigitsWithin count magnitude) : DigitsWithin more magnitude := by
  obtain ⟨coefficient, power, short, value⟩ := within
  exact ⟨coefficient, power, short.trans_le (Nat.pow_le_pow_right (by decide) fewer), value⟩

theorem digits_within_zero {magnitude : ℚ} (within : DigitsWithin 0 magnitude) : magnitude = 0 := by
  obtain ⟨coefficient, power, short, rfl⟩ := within
  rw [Nat.lt_one_iff.mp short, Nat.cast_zero, zero_mul]

theorem tried_digits (some : 0 < count) (positive : 0 < mantissa) (exponent : Int) :
    DigitsWithin count
      (tried count mantissa exponent * 10 ^ lastPower count mantissa exponent) := by
  rcases (tried_le_power count exponent positive).lt_or_eq with less | full
  · exact ⟨_, _, less, rfl⟩
  · refine ⟨1, count + lastPower count mantissa exponent, Nat.one_lt_pow some.ne' (by decide), ?_⟩
    rw [full, ten_power_add, zpow_natCast]
    push_cast
    ring

/-- A magnitude whose last digit is no zero has no shorter form. -/
theorem digits_within_last {coefficient : Nat} {power : Int} (last : coefficient % 10 ≠ 0)
    (within : DigitsWithin count (coefficient * 10 ^ power)) : coefficient < 10 ^ count := by
  obtain ⟨other, place, short, same⟩ := within
  have units := congrArg (· * (10 : ℚ) ^ (-power)) same
  simp only [mul_assoc, ← ten_power_add, add_neg_cancel, zpow_zero, mul_one] at units
  rcases le_or_gt place power with lower | higher
  · obtain ⟨gap, apart⟩ := Int.eq_ofNat_of_zero_le (sub_nonneg.mpr lower)
    have shift : place + -power = -(gap : Int) := by omega
    rw [shift, zpow_neg, zpow_natCast, ← div_eq_mul_inv, eq_div_iff (by positivity)] at units
    have whole : coefficient * 10 ^ gap = other := by exact_mod_cast units
    exact (Nat.le_mul_of_pos_right _ (Nat.pow_pos (by decide))).trans_lt (whole ▸ short)
  · obtain ⟨gap, apart⟩ := Int.eq_ofNat_of_zero_le (by omega : 0 ≤ place - power - 1)
    have shift : place + -power = ((gap + 1 : Nat) : Int) := by omega
    rw [shift, zpow_natCast] at units
    have whole : coefficient = other * 10 ^ (gap + 1) := by exact_mod_cast units
    refine absurd ?_ last
    rw [whole, Nat.pow_succ, ← Nat.mul_assoc, Nat.mul_mod_left]

/-- On a grid of powers of ten, or below its first magnitude with that many digits. -/
theorem digits_within_cases {magnitude : ℚ} (within : DigitsWithin count magnitude) (power : Int) :
    (∃ units : Nat, magnitude = units * 10 ^ power) ∨
      magnitude ≤ 10 ^ (power + count - 1) - 10 ^ power / 10 := by
  obtain ⟨coefficient, place, short, rfl⟩ := within
  rcases le_or_gt power place with higher | lower
  · left
    obtain ⟨gap, apart⟩ := Int.eq_ofNat_of_zero_le (sub_nonneg.mpr higher)
    have split : place = (gap : Int) + power := by omega
    refine ⟨coefficient * 10 ^ gap, ?_⟩
    rw [split, ten_power_add, zpow_natCast]
    push_cast
    ring
  · right
    have most : (coefficient : ℚ) ≤ 10 ^ count - 1 := by
      rw [le_sub_iff_add_le]
      exact_mod_cast short
    have room : (0 : ℚ) ≤ 10 ^ count - 1 := (Nat.cast_nonneg _).trans most
    calc (coefficient : ℚ) * 10 ^ place ≤ (10 ^ count - 1) * 10 ^ (power - 1) := by
          gcongr
          · norm_num
          · omega
      _ = 10 ^ (power + count - 1) - 10 ^ power / 10 := by
          have first : power + count - 1 = (count : Int) + (power - 1) := by ring
          rw [first, ten_power_add, zpow_natCast, zpow_sub_one₀ (by norm_num)]
          ring

/-! The nearest magnitude -/

theorem tried_near (count mantissa : Nat) (exponent : Int) :
    (mantissa : ℚ) * 2 ^ exponent - 10 ^ lastPower count mantissa exponent / 2 ≤
        tried count mantissa exponent * 10 ^ lastPower count mantissa exponent ∧
      (tried count mantissa exponent : ℚ) * 10 ^ lastPower count mantissa exponent ≤
        mantissa * 2 ^ exponent + 10 ^ lastPower count mantissa exponent / 2 := by
  have unit : (0 : ℚ) < 10 ^ lastPower count mantissa exponent := by positivity
  have near := round_half_even_near
    (scale 10 (ratioOf mantissa exponent).1 (ratioOf mantissa exponent).2
      (lastPower count mantissa exponent)).1
    (scale_positive 10 (by decide) (ratioOf mantissa exponent).1
      (ratio_of_positive mantissa exponent) (lastPower count mantissa exponent))
  rw [value_in_units, sub_le_iff_le_add, div_le_iff₀ unit, ← sub_le_iff_le_add,
    le_div_iff₀ unit] at near
  change (_ ≤ ((tried count mantissa exponent : ℚ) + _) * _) ∧
    ((tried count mantissa exponent : ℚ) - _) * _ ≤ _ at near
  constructor <;> linarith

theorem first_in_units (some : 0 < count) (power : Int) :
    (10 : ℚ) ^ (power + count - 1) = 10 ^ (count - 1) * 10 ^ power := by
  have split : power + count - 1 = ((count - 1 : Nat) : Int) + power := by omega
  rw [split, ten_power_add, zpow_natCast]

/-- The first magnitude with that many digits is no nearer. -/
theorem tried_first (some : 0 < count) (positive : 0 < mantissa) (exponent : Int) :
    (10 : ℚ) ^ (lastPower count mantissa exponent + count - 1) ≤
        tried count mantissa exponent * 10 ^ lastPower count mantissa exponent ∧
      (tried count mantissa exponent : ℚ) * 10 ^ lastPower count mantissa exponent ≤
        2 * (mantissa * 2 ^ exponent) -
          10 ^ (lastPower count mantissa exponent + count - 1) := by
  have low := (last_power_spec count exponent positive).1
  have near := tried_near count mantissa exponent
  have unit : (0 : ℚ) < 10 ^ lastPower count mantissa exponent := by positivity
  have first := first_in_units some (lastPower count mantissa exponent)
  rw [first] at low ⊢
  have least : 10 ^ (count - 1) ≤ tried count mantissa exponent := by
    apply le_tried
    push_cast
    linarith
  rcases least.lt_or_eq with more | same
  · have above : (10 : ℚ) ^ (count - 1) + 1 ≤ tried count mantissa exponent := by
      exact_mod_cast more
    have scaled := mul_le_mul_of_nonneg_right above unit.le
    constructor <;> linarith
  · rw [← same]
    push_cast
    constructor <;> linarith

/-- Another magnitude beside the nearest one to a value: it is a whole step away from that, or
below both and farther from the value. -/
structure Rival (value step near other : ℚ) : Prop where
  low : value - step / 2 ≤ near
  high : near ≤ value + step / 2
  apart : other + step ≤ near ∨ near + step ≤ other ∨
    other + step / 10 ≤ near ∧ near + other + step / 10 ≤ 2 * value

theorem digits_rival (some : 0 < count) (positive : 0 < mantissa) (exponent : Int) {other : ℚ}
    (within : DigitsWithin count other)
    (differs : other ≠ tried count mantissa exponent * 10 ^ lastPower count mantissa exponent) :
    Rival (mantissa * 2 ^ exponent) (10 ^ lastPower count mantissa exponent)
      (tried count mantissa exponent * 10 ^ lastPower count mantissa exponent) other := by
  have unit : (0 : ℚ) < 10 ^ lastPower count mantissa exponent := by positivity
  obtain ⟨low, high⟩ := tried_near count mantissa exponent
  refine ⟨low, high, ?_⟩
  rcases digits_within_cases within (lastPower count mantissa exponent) with ⟨units, rfl⟩ | below
  · have differ : units ≠ tried count mantissa exponent := fun same => differs (by rw [same])
    rcases differ.lt_or_gt with less | more
    · have step : (units : ℚ) + 1 ≤ tried count mantissa exponent := by exact_mod_cast less
      have scaled := mul_le_mul_of_nonneg_right step unit.le
      exact .inl (by linarith)
    · have step : (tried count mantissa exponent : ℚ) + 1 ≤ units := by exact_mod_cast more
      have scaled := mul_le_mul_of_nonneg_right step unit.le
      exact .inr (.inl (by linarith))
  · have first := tried_first some positive exponent
    exact .inr (.inr ⟨by linarith, by linarith⟩)

section Rival

variable {value step near other unit : ℚ}

/-- In an interval of a whole unit the nearest magnitude is missed only by steps of that size. -/
theorem rival_of_half (rival : Rival value step near other) (positive : 0 < unit)
    (above : value - unit / 2 - unit / 1000 ≤ other)
    (below : other ≤ value + unit / 2 + unit / 1000)
    (missed : near ≤ value - unit / 2 + unit / 1000 ∨ value + unit / 2 - unit / 1000 ≤ near) :
    499 * unit ≤ 500 * step ∧ 500 * step ≤ 501 * unit := by
  obtain ⟨low, high, apart⟩ := rival
  rcases apart with less | more | lower
  · exact ⟨by rcases missed with beneath | beyond <;> linarith, by linarith⟩
  · exact ⟨by rcases missed with beneath | beyond <;> linarith, by linarith⟩
  · rcases missed with beneath | beyond <;> linarith

/-- In an interval that ends a quarter below the value, the nearest magnitude is missed only there,
by one step from the upper half. -/
theorem rival_of_quarter (rival : Rival value step near other) (positive : 0 < unit)
    (above : value - unit / 4 - unit / 1000 ≤ other)
    (below : other ≤ value + unit / 2 + unit / 1000)
    (missed : near ≤ value - unit / 4 + unit / 1000 ∨ value + unit / 2 - unit / 1000 ≤ near) :
    near ≤ value - unit / 4 + unit / 1000 ∧ near + step ≤ value + unit / 2 + unit / 1000 := by
  obtain ⟨low, high, apart⟩ := rival
  rcases apart with less | more | lower
  · rcases missed with beneath | beyond <;> linarith
  · exact ⟨by rcases missed with beneath | beyond <;> linarith, by linarith⟩
  · rcases missed with beneath | beyond <;> linarith

end Rival

/-! Reading back -/

/-- The powers of two around which a power of ten has a multiple that reads back farther away than
the nearest one, which does not. -/
def crowdedPowers : List Int := [-96, 87, 90]

theorem mem_crowded_iff {power : Int} :
    power ∈ crowdedPowers ↔ power = -96 ∨ power = 87 ∨ power = 90 := by
  simp [crowdedPowers]

section ReadingBack

variable {m : Nat} {e : Int} {negative : Bool} {n : Numeral}

theorem crowded_single (power : m = 2 ^ 23) (listed : e = -119 ∨ e = 64 ∨ e = 67) :
    ∃ power ∈ crowdedPowers, (m : ℚ) * 2 ^ e = 2 ^ power := by
  refine ⟨23 + e, ?_, ?_⟩
  · rw [mem_crowded_iff]
    omega
  · rw [power, two_power_add]
    norm_num

theorem positive_of_same (some : 0 < m) (same : (mantissa : ℚ) * 2 ^ exponent = m * 2 ^ e) :
    0 < mantissa := by
  refine Nat.pos_of_ne_zero ?_
  rintro rfl
  rw [Nat.cast_zero, zero_mul, eq_comm] at same
  exact absurd same (by positivity)

/-- If any magnitude with so many digits reads back as the single, the nearest one does. -/
theorem nearest_reads_back (held : Held single m e) (some : 0 < m) (few : 0 < count)
    (same : (mantissa : ℚ) * 2 ^ exponent = m * 2 ^ e) (sign : n.negative = negative)
    (value : n.magnitude = tried count mantissa exponent * 10 ^ lastPower count mantissa exponent)
    {other : Numeral} (within : DigitsWithin count other.magnitude)
    (read : ReadsBack (widened negative m e) other)
    (ordinary : ∀ power ∈ crowdedPowers, (m : ℚ) * 2 ^ e ≠ 2 ^ power) :
    ReadsBack (widened negative m e) n := by
  obtain ⟨otherSign, above, below⟩ := numeral_reads_within held some read
  by_cases equal : other.magnitude = n.magnitude
  · rwa [ReadsBack, ← to_double_congr (otherSign.trans sign.symm) equal]
  have unit : (0 : ℚ) < 2 ^ e := by positivity
  have positive : 0 < mantissa := positive_of_same some same
  have rival := digits_rival few positive exponent within (value ▸ equal)
  rw [← value, same] at rival
  have least : -149 ≤ e := held.above
  have most : e ≤ 104 := held.below
  by_contra fails
  have missed : n.magnitude ≤ m * 2 ^ e - gapBelow single m e + 2 ^ e / 1000 ∨
      (m : ℚ) * 2 ^ e + 2 ^ e / 2 - 2 ^ e / 1000 ≤ n.magnitude := by
    by_contra inside
    rw [not_or, not_le, not_le] at inside
    exact fails (sign ▸ numeral_reads_back held some n inside.1 inside.2)
  -- Above the least exponent the interval of a power of two is not symmetric.
  by_cases power : m = 2 ^ 23 ∧ -149 < e
  · have gap : gapBelow single m e = 2 ^ e / 4 := if_pos power
    rw [gap] at above missed
    obtain ⟨lower, upper⟩ := rival_of_quarter rival unit above below missed
    have nearest := rival.low
    rw [power.1, value] at lower upper nearest
    push_cast at lower upper nearest
    have listed := powers_crowd least most lower (by linarith) upper
    obtain ⟨place, member, crowded⟩ := crowded_single power.1 listed
    exact ordinary place member crowded
  · have gap : gapBelow single m e = 2 ^ e / 2 := if_neg power
    rw [gap] at above missed
    obtain ⟨less, more⟩ := rival_of_half rival unit above below missed
    obtain ⟨rfl, one⟩ := powers_coincide least most less more
    -- At a unit of one the value is whole, and tried as it is.
    have exact : tried count mantissa exponent = m := by
      apply Nat.le_antisymm
      · apply tried_le
        rw [same, one]
        norm_num
      · apply le_tried
        rw [same, one]
        norm_num
    rw [value, exact, one] at missed
    rcases missed with beneath | beyond
    · norm_num at beneath
      linarith
    · norm_num at beyond

/-- Nine digits always read back. -/
theorem nine_digits_read_back (held : Held single m e) (some : 0 < m)
    (same : (mantissa : ℚ) * 2 ^ exponent = m * 2 ^ e)
    (value : n.magnitude = tried 9 mantissa exponent * 10 ^ lastPower 9 mantissa exponent) :
    ReadsBack (widened n.negative m e) n := by
  have unit : (0 : ℚ) < 2 ^ e := by positivity
  have room := single_room held
  have gap := (gap_below_bounds single m e).1
  have positive : 0 < mantissa := positive_of_same some same
  have leading := (last_power_spec 9 exponent positive).1
  have near := tried_near 9 mantissa exponent
  rw [first_in_units (by decide), same] at leading
  simp only [Nat.reduceSub] at leading
  rw [← value, same] at near
  apply numeral_reads_back held some
  · linarith
  · linarith

end ReadingBack

end SchemaCompiler.Decimal
