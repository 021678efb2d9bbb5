import Mathlib.Algebra.Order.Field.Power
import Mathlib.Data.Rat.Cast.Order
import Mathlib.Tactic.Linarith
import Mathlib.Tactic.NormNum
import Mathlib.Tactic.Positivity
import Mathlib.Tactic.Ring

/-!
Where the powers of ten come to lie among the singles. All powers that matter are whole numbers of
one small unit, and beside each power of ten there are only two powers of two, so that what holds
of all of them is decided by going through the powers of ten.
-/

namespace SchemaCompiler.Decimal

/-- The powers of two and of ten that come up, in a unit so small that they are whole. -/
def twoUnits (i : Nat) : Nat := 2 ^ i * 10 ^ 46

def tenUnits (j : Nat) : Nat := 10 ^ j * 2 ^ 149

def smallUnit : ℚ := (2 ^ 149 * 10 ^ 46)⁻¹

theorem two_power_units (i : Nat) : (2 : ℚ) ^ ((i : Int) - 149) = twoUnits i * smallUnit := by
  rw [zpow_sub₀ (by norm_num), zpow_natCast, twoUnits, smallUnit]
  push_cast
  norm_num
  ring

theorem ten_power_units (j : Nat) : (10 : ℚ) ^ ((j : Int) - 46) = tenUnits j * smallUnit := by
  rw [zpow_sub₀ (by norm_num), zpow_natCast, tenUnits, smallUnit]
  push_cast
  norm_num
  ring

/-- Within a thousandth the two are equal. -/
def Coincide (i j : Nat) : Prop :=
  499 * twoUnits i ≤ 500 * tenUnits j ∧ 500 * tenUnits j ≤ 501 * twoUnits i

instance (i j : Nat) : Decidable (Coincide i j) := inferInstanceAs (Decidable (_ ∧ _))

/-- Of the multiples of the power of ten around `2 ^ 23` of the powers of two, the lower one is the
nearest and the upper one is within half a power of two, while the lower one is not within a
quarter. -/
def Crowd (i j : Nat) (units : Nat) : Prop :=
  1000 * (units * tenUnits j) + 249 * twoUnits i ≤ 1000 * (2 ^ 23 * twoUnits i) ∧
    2 * (2 ^ 23 * twoUnits i) ≤ (2 * units + 1) * tenUnits j ∧
    1000 * ((units + 1) * tenUnits j) ≤ 1000 * (2 ^ 23 * twoUnits i) + 501 * twoUnits i

instance (i j units : Nat) : Decidable (Crowd i j units) :=
  inferInstanceAs (Decidable (_ ∧ _ ∧ _))

/-- The greater of the two powers of two that can be near a power of ten. -/
def beside (j : Nat) : Nat := Nat.log2 (500 * tenUnits j / (249 * 10 ^ 46))

theorem beside_spec {i j : Nat} (low : 249 * twoUnits i ≤ 500 * tenUnits j)
    (high : 500 * tenUnits j ≤ 501 * twoUnits i) : ∃ back < 2, i = beside j - back := by
  have lower : 2 ^ i ≤ 500 * tenUnits j / (249 * 10 ^ 46) := by
    rw [Nat.le_div_iff_mul_le (by norm_num)]
    refine le_trans (le_of_eq ?_) low
    rw [twoUnits]
    ring
  have upper : 500 * tenUnits j / (249 * 10 ^ 46) < 2 ^ (i + 2) := by
    rw [Nat.div_lt_iff_lt_mul (by norm_num)]
    refine high.trans_lt ?_
    rw [twoUnits, Nat.pow_add]
    have some : 0 < 2 ^ i := Nat.two_pow_pos i
    omega
  have nonzero : 500 * tenUnits j / (249 * 10 ^ 46) ≠ 0 :=
    ((Nat.two_pow_pos i).trans_le lower).ne'
  have first : i ≤ beside j := (Nat.le_log2 nonzero).mpr lower
  have second : beside j < i + 2 := (Nat.log2_lt nonzero).mpr upper
  exact ⟨beside j - i, by omega, by omega⟩

theorem coincide_beside : ∀ j < 78, ∀ back < 2, Coincide (beside j - back) j →
    beside j - back = 149 ∧ j = 46 := by
  decide +kernel

theorem crowd_beside : ∀ j < 78, ∀ back < 2,
    Crowd (beside j - back) j (2 ^ 23 * twoUnits (beside j - back) / tenUnits j) →
      beside j - back ∈ [30, 213, 216] := by
  decide +kernel

section Powers

variable {e p : Int}

theorem power_indices (least : -149 ≤ e) (most : e ≤ 104)
    (low : (249 : ℚ) * 2 ^ e ≤ 500 * 10 ^ p) (high : (500 : ℚ) * 10 ^ p ≤ 501 * 2 ^ e) :
    ∃ i j : Nat, j < 78 ∧ e = i - 149 ∧ p = j - 46 := by
  have bottom : (2 : ℚ) ^ (-149 : Int) ≤ 2 ^ e := zpow_le_zpow_right₀ (by norm_num) least
  have top : (2 : ℚ) ^ e ≤ 2 ^ (104 : Int) := zpow_le_zpow_right₀ (by norm_num) most
  have lower : (10 : ℚ) ^ (-46 : Int) < 10 ^ p := by
    norm_num at bottom ⊢
    linarith
  have upper : (10 : ℚ) ^ p < 10 ^ (32 : Int) := by
    norm_num at top ⊢
    linarith
  have first := (zpow_lt_zpow_iff_right₀ (by norm_num)).mp lower
  have last := (zpow_lt_zpow_iff_right₀ (by norm_num)).mp upper
  exact ⟨(e + 149).toNat, (p + 46).toNat, by omega, by omega, by omega⟩

theorem small_unit_positive : 0 < smallUnit := by
  rw [smallUnit]
  positivity

theorem of_small_units {a b : Nat} (scaled : (a : ℚ) * smallUnit ≤ b * smallUnit) : a ≤ b := by
  exact_mod_cast le_of_mul_le_mul_right scaled small_unit_positive

/-- Only at one do a power of two and a power of ten coincide. -/
theorem powers_coincide (least : -149 ≤ e) (most : e ≤ 104)
    (low : (499 : ℚ) * 2 ^ e ≤ 500 * 10 ^ p) (high : (500 : ℚ) * 10 ^ p ≤ 501 * 2 ^ e) :
    e = 0 ∧ p = 0 := by
  have unit : (0 : ℚ) < 2 ^ e := by positivity
  obtain ⟨i, j, within, rfl, rfl⟩ := power_indices least most (by linarith) high
  rw [two_power_units, ten_power_units] at low high
  have coincide : Coincide i j := by
    refine ⟨of_small_units ?_, of_small_units ?_⟩ <;> push_cast <;> linarith
  obtain ⟨back, few, same⟩ := beside_spec (by have := coincide.1; omega) coincide.2
  rw [same] at coincide
  have one := coincide_beside j within back few coincide
  omega

/-- Around three powers of two are the multiples of a power of ten placed so that the nearer one is
lost. -/
theorem powers_crowd {units : Nat} (least : -149 ≤ e) (most : e ≤ 104)
    (below : (units : ℚ) * 10 ^ p ≤ 2 ^ 23 * 2 ^ e - 2 ^ e / 4 + 2 ^ e / 1000)
    (nearest : (2 : ℚ) ^ 23 * 2 ^ e ≤ units * 10 ^ p + 10 ^ p / 2)
    (above : (units : ℚ) * 10 ^ p + 10 ^ p ≤ 2 ^ 23 * 2 ^ e + 2 ^ e / 2 + 2 ^ e / 1000) :
    e = -119 ∨ e = 64 ∨ e = 67 := by
  obtain ⟨i, j, within, rfl, rfl⟩ := power_indices (p := p) least most (by linarith) (by linarith)
  rw [two_power_units, ten_power_units] at below nearest above
  have crowd : Crowd i j units := by
    refine ⟨of_small_units ?_, of_small_units ?_, of_small_units ?_⟩ <;> push_cast <;> linarith
  have positive : 0 < tenUnits j := Nat.mul_pos (Nat.pow_pos (by decide)) (Nat.two_pow_pos _)
  have ⟨lower, middle, upper⟩ := crowd
  rw [Nat.add_mul, Nat.one_mul] at upper
  rw [Nat.add_mul, Nat.one_mul, Nat.mul_assoc] at middle
  have floor : 2 ^ 23 * twoUnits i / tenUnits j = units := by
    apply Nat.div_eq_of_lt_le
    · omega
    · rw [Nat.add_mul, Nat.one_mul]
      omega
  obtain ⟨back, few, same⟩ := beside_spec (i := i) (j := j) (by omega) (by omega)
  have listed := crowd_beside j within back few (by rw [← same, floor]; exact crowd)
  rw [← same] at listed
  simp only [List.mem_cons, List.not_mem_nil, or_false] at listed
  omega

end Powers

end SchemaCompiler.Decimal
