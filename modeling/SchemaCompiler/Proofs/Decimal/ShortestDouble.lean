import SchemaCompiler.Proofs.Decimal.SingleReading

/-!
The shortest text of a double reads back as it. With seventeen digits the nearest magnitude lies
so close to the double that no other one is nearer, so the search for fewer digits ends.
-/

namespace SchemaCompiler.Decimal

open Text

variable {m : Nat} {e power : Int} {coefficient : Nat}

theorem passing_of_two (passes : Nat → Bool) {first second chosen : Nat}
    (found : (if passes first then some first else if passes second then some second else none) =
      some chosen) : passes chosen = true := by
  split at found
  · next here =>
    cases found
    exact here
  · split at found
    · next there =>
      cases found
      exact there
    · cases found

/-- What is found on a grid reads back. -/
theorem reads_back_on_found (found : readsBackOn? m e power = some coefficient) :
    Numeral.toDouble ⟨false, coefficient, power⟩ = .finite false m e :=
  eq_of_beq
    (passing_of_two (fun c => Numeral.toDouble ⟨false, c, power⟩ == .finite false m e) found)

/-- The point of a grid that is nearest to a value. -/
def nearestOn (m : Nat) (e power : Int) : Nat :=
  let (num, den) := ratioOf m e
  let (n, d) := scaleDecimal num den power
  roundHalfEven n d

theorem reads_back_on_exists
    (back : Numeral.toDouble ⟨false, nearestOn m e power, power⟩ = .finite false m e) :
    ∃ coefficient, readsBackOn? m e power = some coefficient := by
  refine ⟨nearestOn m e power, ?_⟩
  unfold readsBackOn?
  exact if_pos (beq_iff_eq.mpr back)

theorem nearest_on_near (m : Nat) (e power : Int) :
    (m : ℚ) * 2 ^ e - 10 ^ power / 2 ≤ nearestOn m e power * 10 ^ power ∧
      (nearestOn m e power : ℚ) * 10 ^ power ≤ m * 2 ^ e + 10 ^ power / 2 := by
  have unit : (0 : ℚ) < 10 ^ power := by positivity
  have near := round_half_even_near (scale 10 (ratioOf m e).1 (ratioOf m e).2 power).1
    (scale_positive 10 (by decide) (ratioOf m e).1 (ratio_of_positive m e) power)
  rw [scale_value, ratio_of_value, sub_le_iff_le_add, Nat.cast_ofNat, div_le_iff₀ unit,
    ← sub_le_iff_le_add, le_div_iff₀ unit] at near
  change (_ ≤ ((nearestOn m e power : ℚ) + _) * _) ∧
    ((nearestOn m e power : ℚ) - _) * _ ≤ _ at near
  constructor <;> linarith

/-- Half a unit of the seventeenth digit is less than the gap around a double. -/
theorem seventeen_digits_near (held : Held double m e)
    (leading : (10 : ℚ) ^ (power + 16) ≤ m * 2 ^ e) :
    (10 : ℚ) ^ power / 2 < gapBelow double m e ∧ (10 : ℚ) ^ power / 2 < 2 ^ e / 2 := by
  have unit : (0 : ℚ) < 2 ^ e := by positivity
  have fits : (m : ℚ) ≤ 2 ^ 53 := by exact_mod_cast held.fits.le
  have size : (10 : ℚ) ^ power * 10 ^ (16 : Nat) ≤ m * 2 ^ e := by
    rwa [← zpow_natCast, ← ten_power_add]
  have most := mul_le_mul_of_nonneg_right fits unit.le
  have half : (10 : ℚ) ^ power / 2 < 2 ^ e / 2 := by
    norm_num at size most
    linarith
  refine ⟨?_, half⟩
  rw [gapBelow]
  split
  · next quarter =>
    rw [quarter.1] at size
    norm_num [double] at size
    linarith
  · exact half

theorem nearest_of_seventeen (held : Held double m e) (some : 0 < m)
    (leading : (10 : ℚ) ^ (power + 16) ≤ m * 2 ^ e) :
    Numeral.toDouble ⟨false, nearestOn m e power, power⟩ = .finite false m e := by
  obtain ⟨num, den, divisor, value⟩ := magnitude_ratio ⟨false, nearestOn m e power, power⟩
  obtain ⟨below, above⟩ := seventeen_digits_near held leading
  obtain ⟨low, high⟩ := nearest_on_near m e power
  have magnitude : (num : ℚ) / den = nearestOn m e power * 10 ^ power := value
  have gap := (gap_below_bounds double m e).2
  have least := single_unit_le some e
  have unit : (0 : ℚ) < 2 ^ e := by positivity
  have positive : 0 < num := by
    refine Nat.pos_of_ne_zero ?_
    rintro rfl
    rw [Nat.cast_zero, zero_div] at magnitude
    linarith
  have rounded := round_ratio_of_between rfl held positive divisor
    (by rw [magnitude]; linarith) (by rw [magnitude]; linarith)
  rw [to_double_of_ratio _ divisor value, FloatValue.ofRatio, rounded]

/-- The search ends on a grid with a point that reads back, if it reaches one. -/
theorem shortest_from_found {leading : Int} {count fuel last : Nat} (start : count ≤ last)
    (inside : last < count + fuel)
    (back : ∃ coefficient, readsBackOn? m e (leading - last) = some coefficient) :
    ∃ coefficient power, readsBackOn? m e power = some coefficient ∧
      shortestFrom m e leading count fuel = .ofCoefficient coefficient power := by
  induction fuel generalizing count with
  | zero => omega
  | succ fuel ih =>
      rw [shortestFrom]
      cases found : readsBackOn? m e (leading - count) with
      | some coefficient => exact ⟨coefficient, _, found, rfl⟩
      | none =>
          have later : count ≠ last := by
            rintro rfl
            obtain ⟨coefficient, there⟩ := back
            rw [found] at there
            cases there
          exact ih (by omega) (by omega)

theorem shortest_digits_found (held : Held double m e) (some : 0 < m) :
    ∃ coefficient power, 0 < coefficient ∧
      Numeral.toDouble ⟨false, coefficient, power⟩ = .finite false m e ∧
      shortestDigits m e = .ofCoefficient coefficient power := by
  have positive := ratio_of_fst_positive some e
  have divisor := ratio_of_positive m e
  have leading := (leading_power_spec positive divisor).1
  rw [ratio_of_value] at leading
  have last : ∃ coefficient, readsBackOn? m e
      (leadingPower (ratioOf m e).1 (ratioOf m e).2 - (16 : Nat)) = Option.some coefficient :=
    reads_back_on_exists
      (nearest_of_seventeen held some (by rwa [Nat.cast_ofNat, Int.sub_add_cancel]))
  obtain ⟨coefficient, power, found, digits⟩ :
      ∃ coefficient power, readsBackOn? m e power = Option.some coefficient ∧
        shortestDigits m e = .ofCoefficient coefficient power :=
    shortest_from_found (Nat.zero_le 16) (by decide) last
  have back := reads_back_on_found found
  refine ⟨coefficient, power, Nat.pos_of_ne_zero ?_, back, digits⟩
  rintro rfl
  cases back
  exact lt_irrefl 0 some

/-- The sign of a numeral is that of its double. -/
theorem to_double_signed {n : Numeral} (read : n.toDouble = .finite false m e) (negative : Bool)
    {other : Numeral} (sign : other.negative = negative)
    (value : other.magnitude = n.magnitude) : other.toDouble = .finite negative m e := by
  obtain ⟨num, den, divisor, same⟩ := magnitude_ratio n
  rw [to_double_of_ratio n divisor same, FloatValue.ofRatio] at read
  rw [to_double_of_ratio other divisor (same.trans value.symm), FloatValue.ofRatio, sign]
  cases rounded : roundRatio double num den with
  | none => simp [rounded] at read
  | some parts =>
      simp only [rounded, FloatValue.finite.injEq] at read
      obtain ⟨_, rfl, rfl⟩ := read
      rfl

/-- The digits of a double denote a number whose nearest double it is. -/
theorem shortest_digits_denote (held : Held double m e) (some : 0 < m) (format : FloatFormat)
    (negative : Bool) :
    ∃ n, Numeral.readUnsigned? negative (digitsText format (shortestDigits m e)) = Option.some n ∧
      n.toDouble = .finite negative m e := by
  obtain ⟨coefficient, power, positive, back, found⟩ := shortest_digits_found held some
  obtain ⟨present, ascii, value⟩ := of_coefficient_digits positive power
  obtain ⟨n, read, sign, magnitude⟩ := digits_text_denotes negative format present ascii
  rw [found]
  exact ⟨n, read, to_double_signed back negative sign (magnitude.trans value)⟩

end SchemaCompiler.Decimal
