import SchemaCompiler.Proofs.Decimal.Significant

/-!
When the search for the text of a single fails: a text of growing precision that is tried may
round up beyond the greatest single. It does so exactly for the magnitudes above
`34025 * 10 ^ 34`, which four digits round up to `3403 * 10 ^ 35`.
-/

namespace SchemaCompiler.Decimal

open Text

/-! The texts that are tried -/

/-- The unit of the last significant digit. -/
def lastPower (count mantissa : Nat) (exponent : Int) : Int :=
  leadingPower (ratioOf mantissa exponent).1 (ratioOf mantissa exponent).2 - count + 1

/-- The value in units of its last significant digit. -/
def tried (count mantissa : Nat) (exponent : Int) : Nat :=
  let (n, d) := scale 10 (ratioOf mantissa exponent).1 (ratioOf mantissa exponent).2
    (lastPower count mantissa exponent)
  roundHalfEven n d

theorem significant_text_eq (count : Nat) (negative : Bool) {mantissa : Nat}
    (positive : 0 < mantissa) (exponent : Int) :
    significantText count (.finite negative mantissa exponent) =
      withSign negative (digitsText ⟨count, false⟩
        (.ofCoefficient (tried count mantissa exponent) (lastPower count mantissa exponent))) := by
  obtain ⟨less, rfl⟩ := Nat.exists_eq_succ_of_ne_zero positive.ne'
  rfl

theorem ratio_of_fst_positive {mantissa : Nat} (positive : 0 < mantissa) (exponent : Int) :
    0 < (ratioOf mantissa exponent).1 := by
  rw [ratioOf]
  split
  · exact Nat.mul_pos positive (Nat.two_pow_pos _)
  · exact positive

variable {count mantissa : Nat} {exponent : Int}

theorem value_in_units (count mantissa : Nat) (exponent : Int) :
    ((scale 10 (ratioOf mantissa exponent).1 (ratioOf mantissa exponent).2
      (lastPower count mantissa exponent)).1 : ℚ) /
        (scale 10 (ratioOf mantissa exponent).1 (ratioOf mantissa exponent).2
          (lastPower count mantissa exponent)).2 =
      mantissa * 2 ^ exponent / 10 ^ lastPower count mantissa exponent := by
  rw [scale_value, ratio_of_value]
  norm_cast

theorem tried_le {bound : Nat}
    (below : (mantissa : ℚ) * 2 ^ exponent <
      (bound + 1 / 2) * 10 ^ lastPower count mantissa exponent) :
    tried count mantissa exponent ≤ bound := by
  rw [← div_lt_iff₀ (by positivity), ← value_in_units] at below
  exact round_half_even_le (scale_positive 10 (by decide) _ (ratio_of_positive mantissa exponent) _)
    below

theorem le_tried {bound : Nat}
    (above : (bound - 1 / 2 : ℚ) * 10 ^ lastPower count mantissa exponent <
      mantissa * 2 ^ exponent) :
    bound ≤ tried count mantissa exponent := by
  rw [← lt_div_iff₀ (by positivity), ← value_in_units] at above
  exact le_round_half_even (scale_positive 10 (by decide) _ (ratio_of_positive mantissa exponent) _)
    above

theorem tried_le_of_even {bound : Nat} (even : bound % 2 = 0)
    (below : (mantissa : ℚ) * 2 ^ exponent ≤
      (bound + 1 / 2) * 10 ^ lastPower count mantissa exponent) :
    tried count mantissa exponent ≤ bound := by
  rw [← div_le_iff₀ (by positivity), ← value_in_units] at below
  exact round_half_even_le_of_even
    (scale_positive 10 (by decide) _ (ratio_of_positive mantissa exponent) _) even below

/-- The leading power, seen from the last one. -/
theorem last_power_spec (count : Nat) (exponent : Int) (positive : 0 < mantissa) :
    (10 : ℚ) ^ (lastPower count mantissa exponent + count - 1) ≤ mantissa * 2 ^ exponent ∧
      (mantissa : ℚ) * 2 ^ exponent < 10 ^ (lastPower count mantissa exponent + count) := by
  have leading := leading_power_spec (ratio_of_fst_positive positive exponent)
    (ratio_of_positive mantissa exponent)
  rw [ratio_of_value] at leading
  have first : leadingPower (ratioOf mantissa exponent).1 (ratioOf mantissa exponent).2 =
      lastPower count mantissa exponent + count - 1 := by
    rw [lastPower]
    ring
  rw [first, Int.sub_add_cancel] at leading
  exact leading

theorem tried_positive (exponent : Int) (some : 0 < count) (positive : 0 < mantissa) :
    0 < tried count mantissa exponent := by
  apply le_tried
  have low := (last_power_spec count exponent positive).1
  have step : (10 : ℚ) ^ lastPower count mantissa exponent ≤
      10 ^ (lastPower count mantissa exponent + count - 1) :=
    zpow_le_zpow_right₀ (by norm_num) (by omega)
  have unit : (0 : ℚ) < 10 ^ lastPower count mantissa exponent := by positivity
  push_cast
  linarith

theorem tried_le_power (count : Nat) (exponent : Int) (positive : 0 < mantissa) :
    tried count mantissa exponent ≤ 10 ^ count := by
  have high := (last_power_spec count exponent positive).2
  have unit : (0 : ℚ) < 10 ^ lastPower count mantissa exponent := by positivity
  rw [ten_power_add, zpow_natCast, mul_comm] at high
  apply tried_le
  push_cast
  linarith

/-- The number that a text of a given precision writes. -/
theorem significant_number (some : 0 < count) (negative : Bool) (exponent : Int)
    (positive : 0 < mantissa) :
    ∃ n : Numeral, n.negative = negative ∧ n.magnitude =
        tried count mantissa exponent * 10 ^ lastPower count mantissa exponent ∧
      n.coefficient < 10 ^ (digitsText ⟨count, false⟩ (.ofCoefficient
        (tried count mantissa exponent) (lastPower count mantissa exponent))).length ∧
      Quantity.read? (significantText count (.finite negative mantissa exponent)) =
        if n.inRange then Option.some (.number n) else none := by
  obtain ⟨nonempty, ascii, value⟩ := of_coefficient_digits
    (tried_positive exponent some positive) (lastPower count mantissa exponent)
  obtain ⟨n, read, sign, magnitude⟩ :=
    digits_text_denotes negative ⟨count, false⟩ nonempty ascii
  refine ⟨n, sign, magnitude.trans value, read_unsigned_coefficient read, ?_⟩
  rw [significant_text_eq count negative positive]
  exact read_with_sign read (digits_text_readable ⟨count, false⟩ nonempty ascii)

/-- What a text of a given precision reads as. -/
theorem read_significant (some : 0 < count) (negative : Bool) (exponent : Int)
    (positive : 0 < mantissa) :
    ∃ n : Numeral, n.magnitude =
        tried count mantissa exponent * 10 ^ lastPower count mantissa exponent ∧
      readFloat (significantText count (.finite negative mantissa exponent)) =
        if n.inRange then n.toDouble else .notANumber := by
  obtain ⟨n, _, magnitude, _, read⟩ := significant_number some negative exponent positive
  refine ⟨n, magnitude, ?_⟩
  rw [readFloat, read]
  by_cases inside : n.inRange = true
  · simp [inside]
  · simp [inside]

/-! Magnitudes up to the limit -/

/-- The greatest magnitude that four digits do not round up. -/
def singleLimit : ℚ := 34025 * 10 ^ 34

theorem tried_below (bound : Nat) (below : tried count mantissa exponent ≤ bound)
    (within : (bound : ℚ) * 10 ^ lastPower count mantissa exponent ≤ singleLimit) :
    (tried count mantissa exponent : ℚ) * 10 ^ lastPower count mantissa exponent ≤
      singleLimit := by
  have cast : (tried count mantissa exponent : ℚ) ≤ bound := by exact_mod_cast below
  exact le_trans (by gcongr) within

theorem tried_small (positive : 0 < mantissa)
    (low : lastPower count mantissa exponent + count ≤ 38) :
    (tried count mantissa exponent : ℚ) * 10 ^ lastPower count mantissa exponent ≤
      singleLimit := by
  have split : (10 : ℚ) ^ (lastPower count mantissa exponent + count) =
      10 ^ count * 10 ^ lastPower count mantissa exponent := by
    rw [ten_power_add, zpow_natCast, mul_comm]
  apply tried_below (10 ^ count) (tried_le_power count exponent positive)
  push_cast
  rw [← split]
  calc (10 : ℚ) ^ (lastPower count mantissa exponent + count) ≤ 10 ^ (38 : Int) :=
        zpow_le_zpow_right₀ (by norm_num) low
    _ ≤ singleLimit := by norm_num [singleLimit]

-- The limit has five digits, so from five digits on it is a multiple of the last unit.
theorem tried_fine (within : (mantissa : ℚ) * 2 ^ exponent ≤ singleLimit) (fine : 5 ≤ count)
    (place : lastPower count mantissa exponent + count = 39) :
    (tried count mantissa exponent : ℚ) * 10 ^ lastPower count mantissa exponent ≤
      singleLimit := by
  obtain ⟨more, rfl⟩ := Nat.exists_eq_add_of_le fine
  have last : lastPower (5 + more) mantissa exponent = 34 + -(more : Int) := by omega
  have grid : ((34025 * 10 ^ more : Nat) : ℚ) * 10 ^ lastPower (5 + more) mantissa exponent =
      singleLimit := by
    rw [last, ten_power_add, zpow_neg, zpow_natCast, singleLimit]
    push_cast
    field_simp
    norm_num
  refine tried_below _ (tried_le ?_) grid.le
  have unit : (0 : ℚ) < 10 ^ lastPower (5 + more) mantissa exponent := by positivity
  rw [add_mul, grid]
  linarith

-- Four digits meet the limit half way between two of them and go down to the even one.
theorem tried_coarse (within : (mantissa : ℚ) * 2 ^ exponent ≤ singleLimit) (some : 0 < count)
    (few : count < 5) (place : lastPower count mantissa exponent + count = 39) :
    (tried count mantissa exponent : ℚ) * 10 ^ lastPower count mantissa exponent ≤
      singleLimit := by
  have down (last : Int) (bound : Nat) (same : lastPower count mantissa exponent = last)
      (beyond : singleLimit < (bound + 1 / 2) * 10 ^ last)
      (under : bound * 10 ^ last ≤ singleLimit) :
      (tried count mantissa exponent : ℚ) * 10 ^ lastPower count mantissa exponent ≤
        singleLimit := by
    apply tried_below bound
    · apply tried_le
      rw [same]
      exact within.trans_lt beyond
    · rw [same]
      exact under
  have counts : count = 1 ∨ count = 2 ∨ count = 3 ∨ count = 4 := by omega
  rcases counts with rfl | rfl | rfl | rfl
  · exact down 38 3 (by omega) (by norm_num [singleLimit]) (by norm_num [singleLimit])
  · exact down 37 34 (by omega) (by norm_num [singleLimit]) (by norm_num [singleLimit])
  · exact down 36 340 (by omega) (by norm_num [singleLimit]) (by norm_num [singleLimit])
  · have last : lastPower 4 mantissa exponent = 35 := by omega
    refine tried_below 3402 (tried_le_of_even (by decide) ?_) ?_
    · rw [last]
      exact within.trans (by norm_num [singleLimit])
    · rw [last]
      norm_num [singleLimit]

/-- Up to the limit no precision rounds beyond it. -/
theorem tried_within (some : 0 < count) (positive : 0 < mantissa)
    (within : (mantissa : ℚ) * 2 ^ exponent ≤ singleLimit) :
    (tried count mantissa exponent : ℚ) * 10 ^ lastPower count mantissa exponent ≤
      singleLimit := by
  have low := (last_power_spec count exponent positive).1
  have small : (10 : ℚ) ^ (lastPower count mantissa exponent + count - 1) < 10 ^ (39 : Int) := by
    refine (low.trans within).trans_lt ?_
    norm_num [singleLimit]
  have top := (zpow_lt_zpow_iff_right₀ (by norm_num)).mp small
  by_cases lower : lastPower count mantissa exponent + count ≤ 38
  · exact tried_small positive lower
  · have place : lastPower count mantissa exponent + count = 39 := by omega
    by_cases fine : 5 ≤ count
    · exact tried_fine within fine place
    · exact tried_coarse within some (Nat.not_le.mp fine) place

theorem ratio_narrows (negative : Bool) (num : Nat) {den : Nat} (divisor : 0 < den)
    (within : (num : ℚ) / den ≤ singleLimit) :
    (FloatValue.ofRatio double negative num den).toSingle? ≠ none := by
  rw [FloatValue.ofRatio]
  cases rounded : roundRatio double num den with
  | none => simp [FloatValue.toSingle?]
  | some parts =>
      have bound := round_ratio_upper double (by decide) num divisor rounded
      have unit : (2 : ℚ) ^ double.minExponent ≤ 1 :=
        zpow_le_one_of_nonpos₀ (by norm_num) (by decide)
      have share : (2 : ℚ) ^ (1 - (double.precision : Int)) = 1 / 2 ^ 52 := by
        norm_num [double]
      rw [share] at bound
      rw [ne_eq, to_single_none_iff, not_le]
      norm_num [singleLimit] at bound within ⊢
      linarith

/-- A numeral becomes the double of its magnitude, unless it is far below the least double or far
above the greatest one. -/
theorem to_double_cases (n : Numeral) :
    (n.magnitude < 10 ^ (-400 : Int) ∧ n.toDouble = .ofRatio double n.negative 0 1) ∨
    ((10 : ℚ) ^ (400 : Int) ≤ n.magnitude ∧ n.toDouble = .infinite n.negative) ∨
    ∃ num den : Nat, 0 < den ∧ (num : ℚ) / den = n.magnitude ∧
      n.toDouble = .ofRatio double n.negative num den := by
  rcases Nat.eq_zero_or_pos n.coefficient with zero | positive
  · left
    have nothing : n.magnitude = 0 := by simp [Numeral.magnitude, zero]
    rw [nothing]
    exact ⟨by positivity, by simp [Numeral.toDouble, zero]⟩
  obtain ⟨low, high⟩ := magnitude_digits positive
  rw [Numeral.toDouble]
  split
  · next small =>
    left
    have below : n.exponent + digitLength n.coefficient < -400 := by
      simpa [positive.ne'] using small
    exact ⟨high.trans_le (zpow_le_zpow_right₀ (by norm_num) below.le), rfl⟩
  · split
    · next large =>
      right
      left
      exact ⟨(zpow_le_zpow_right₀ (by norm_num) (by omega)).trans low, rfl⟩
    · right
      right
      rw [Numeral.magnitude]
      split
      · next up =>
        obtain ⟨count, same⟩ := Int.eq_ofNat_of_zero_le up
        refine ⟨_, 1, Nat.one_pos, ?_, rfl⟩
        rw [same, zpow_natCast]
        push_cast
        simp
      · next down =>
        obtain ⟨count, same⟩ := Int.eq_ofNat_of_zero_le (by omega : 0 ≤ -n.exponent)
        have shifted : n.exponent = -(count : Int) := by omega
        refine ⟨n.coefficient, _, Nat.pow_pos (by decide), ?_, rfl⟩
        rw [shifted, zpow_neg, zpow_natCast]
        push_cast
        simp [div_eq_mul_inv]

theorem numeral_narrows (n : Numeral) (within : n.magnitude ≤ singleLimit) :
    n.toDouble.toSingle? ≠ none := by
  rcases to_double_cases n with ⟨_, zero⟩ | ⟨_, infinite⟩ | ⟨num, den, divisor, value, double⟩
  · rw [zero]
    exact ratio_narrows n.negative 0 Nat.one_pos (by norm_num [singleLimit])
  · simp [infinite, FloatValue.toSingle?]
  · rw [double]
    exact ratio_narrows n.negative num divisor (value.le.trans within)

theorem to_single_ok_iff {x back : FloatValue} :
    toSingle x = .ok back ↔ x.toSingle? = some back := by
  rw [toSingle]
  cases x.toSingle? <;> simp

theorem to_single_ok (x : FloatValue) (narrows : x.toSingle? ≠ none) :
    ∃ back, toSingle x = .ok back := by
  obtain ⟨back, narrowed⟩ := Option.ne_none_iff_exists'.mp narrows
  exact ⟨back, to_single_ok_iff.mpr narrowed⟩

theorem tried_text_narrows (some : 0 < count) (negative : Bool)
    (within : (mantissa : ℚ) * 2 ^ exponent ≤ singleLimit) :
    ∃ back, toSingle (readFloat (significantText count (.finite negative mantissa exponent))) =
      .ok back := by
  rcases Nat.eq_zero_or_pos mantissa with rfl | positive
  · cases negative with
    | false => exact ⟨.finite false 0 (-1074), by rfl⟩
    | true => exact ⟨.finite true 0 (-1074), by rfl⟩
  · obtain ⟨n, magnitude, read⟩ := read_significant some negative exponent positive
    have below := tried_within some positive within
    rw [← magnitude] at below
    rw [read]
    apply to_single_ok
    split
    · exact numeral_narrows n below
    · simp [FloatValue.toSingle?]

theorem single_text_step (value : FloatValue) (precision fuel : Nat) :
    singleTextFrom value precision (fuel + 1) =
      match toSingle (readFloat (significantText precision value)) with
      | .error e => .error e
      | .ok back =>
        if back == value then .ok (significantText precision value)
        else singleTextFrom value (precision + 1) fuel := by
  simp only [singleTextFrom, bind, Except.bind]
  cases toSingle (readFloat (significantText precision value)) with
  | error e => rfl
  | ok back => rfl

theorem search_succeeds (negative : Bool)
    (within : (mantissa : ℚ) * 2 ^ exponent ≤ singleLimit) (precision fuel : Nat)
    (some : 0 < precision) :
    ∃ text, singleTextFrom (.finite negative mantissa exponent) precision fuel = .ok text := by
  induction fuel generalizing precision with
  | zero => exact ⟨_, rfl⟩
  | succ fuel ih =>
      obtain ⟨back, narrowed⟩ := tried_text_narrows some negative within
      rw [single_text_step, narrowed]
      dsimp only
      split
      · exact ⟨_, rfl⟩
      · exact ih (precision + 1) (Nat.succ_pos precision)

/-! Magnitudes above the limit -/

theorem tried_exact {place : Int} (bound : Nat)
    (same : lastPower count mantissa exponent = place)
    (above : (bound - 1 / 2 : ℚ) * 10 ^ place < mantissa * 2 ^ exponent)
    (below : (mantissa : ℚ) * 2 ^ exponent < (bound + 1 / 2) * 10 ^ place) :
    tried count mantissa exponent = bound := by
  subst same
  exact Nat.le_antisymm (tried_le below) (le_tried above)

theorem place_above (count : Nat) (positive : 0 < mantissa)
    (above : singleLimit < mantissa * 2 ^ exponent)
    (below : (mantissa : ℚ) * 2 ^ exponent ≤ 34029 * 10 ^ 34) :
    lastPower count mantissa exponent = 39 - count := by
  obtain ⟨low, high⟩ := last_power_spec count exponent positive
  have beyond : (10 : ℚ) ^ (38 : Int) < 10 ^ (lastPower count mantissa exponent + count) := by
    refine lt_trans (lt_trans ?_ above) high
    norm_num [singleLimit]
  have under : (10 : ℚ) ^ (lastPower count mantissa exponent + count - 1) < 10 ^ (39 : Int) := by
    refine (low.trans below).trans_lt ?_
    norm_num
  have more := (zpow_lt_zpow_iff_right₀ (by norm_num)).mp beyond
  have less := (zpow_lt_zpow_iff_right₀ (by norm_num)).mp under
  omega

/-- A text that reads as a value within the limit is not the last one that is tried. -/
theorem passed_over (count fuel bound back : Nat) (place : Int) (negative : Bool)
    (positive : 0 < mantissa) (above : singleLimit < mantissa * 2 ^ exponent)
    (same : lastPower count mantissa exponent = place)
    (exact : tried count mantissa exponent = bound)
    (read : toSingle (readFloat (withSign negative (digitsText ⟨count, false⟩
      (.ofCoefficient bound place)))) = .ok (.finite negative back 75))
    (within : (back : ℚ) * 2 ^ 75 ≤ singleLimit) :
    singleTextFrom (.finite negative mantissa exponent) count (fuel + 1) =
      singleTextFrom (.finite negative mantissa exponent) (count + 1) fuel := by
  have apart : (FloatValue.finite negative back 75 == .finite negative mantissa exponent) =
      false := by
    apply beq_false_of_ne
    rintro ⟨⟩
    exact absurd within (not_le.mpr (by exact_mod_cast above))
  rw [single_text_step, significant_text_eq count negative positive, same, exact, read]
  simp only [apart, Bool.false_eq_true, if_false]

-- One, two and three digits round down to smaller singles, so the search passes over their texts
-- and comes to four digits, which round up beyond the greatest single.
theorem search_fails (negative : Bool) (above : singleLimit < mantissa * 2 ^ exponent)
    (below : (mantissa : ℚ) * 2 ^ exponent ≤ 34029 * 10 ^ 34) :
    ∃ e, singleText (.finite negative mantissa exponent) = .error e := by
  have positive : 0 < mantissa := by
    rcases Nat.eq_zero_or_pos mantissa with rfl | positive
    · norm_num [singleLimit] at above
    · exact positive
  have places := fun count => place_above count positive above below
  have exact (count : Nat) (place : Int) (bound : Nat) (at' : 39 - (count : Int) = place)
      (low : (bound - 1 / 2 : ℚ) * 10 ^ place ≤ singleLimit)
      (high : (34029 * 10 ^ 34 : ℚ) < (bound + 1 / 2) * 10 ^ place) :
      lastPower count mantissa exponent = place ∧ tried count mantissa exponent = bound :=
    ⟨(places count).trans at',
      tried_exact bound ((places count).trans at') (low.trans_lt above) (below.trans_lt high)⟩
  obtain ⟨place₁, tried₁⟩ := exact 1 38 3 rfl (by norm_num [singleLimit]) (by norm_num)
  obtain ⟨place₂, tried₂⟩ := exact 2 37 34 rfl (by norm_num [singleLimit]) (by norm_num)
  obtain ⟨place₃, tried₃⟩ := exact 3 36 340 rfl (by norm_num [singleLimit]) (by norm_num)
  obtain ⟨place₄, tried₄⟩ := exact 4 35 3403 rfl (by norm_num [singleLimit]) (by norm_num)
  rw [singleText,
    passed_over 1 8 3 7940933895061504 38 negative positive above place₁ tried₁
      (by cases negative <;> rfl) (by norm_num [singleLimit]),
    passed_over 2 7 34 8999724937904128 37 negative positive above place₂ tried₂
      (by cases negative <;> rfl) (by norm_num [singleLimit]),
    passed_over 3 6 340 8999724937904128 36 negative positive above place₃ tried₃
      (by cases negative <;> rfl) (by norm_num [singleLimit]),
    single_text_step, significant_text_eq 4 negative positive, place₄, tried₄]
  cases negative with
  | false => exact ⟨_, rfl⟩
  | true => exact ⟨_, rfl⟩

/-- The search for the text of a single fails exactly above the limit. -/
theorem single_text_fails_iff (negative : Bool)
    (below : (mantissa : ℚ) * 2 ^ exponent ≤ 34029 * 10 ^ 34) :
    (∃ e, singleText (.finite negative mantissa exponent) = .error e) ↔
      singleLimit < mantissa * 2 ^ exponent := by
  constructor
  · rintro ⟨e, failed⟩
    refine not_le.mp fun within => ?_
    obtain ⟨text, found⟩ := search_succeeds negative within 1 9 Nat.one_pos
    rw [singleText, found] at failed
    cases failed
  · exact fun above => search_fails negative above below

end SchemaCompiler.Decimal
