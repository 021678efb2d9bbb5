import SchemaCompiler.Proofs.Decimal.NearestDigits

/-!
The text of a single reads back as it, and no other text that does has fewer significant digits,
but for three powers of two: of these only the nearest magnitude with eight digits is tried, which
does not read back, while the next one does. Beyond `singleLimit` there is no text.
-/

namespace SchemaCompiler.Decimal

open Text

/-- No decimal that reads back as the value has fewer significant digits. -/
def Shortest (x : FloatValue) (n : Numeral) : Prop :=
  ∀ other, ReadsBack x other →
    ∀ count, DigitsWithin count other.magnitude → DigitsWithin count n.magnitude

theorem not_shortest {x : FloatValue} {n other : Numeral} (count : Nat)
    (last : n.coefficient % 10 ≠ 0) (long : 10 ^ count ≤ n.coefficient)
    (back : ReadsBack x other) (short : other.coefficient < 10 ^ count) : ¬ Shortest x n := by
  intro shortest
  have within := shortest other back count ⟨_, _, short, rfl⟩
  exact absurd (digits_within_last last within) long.not_gt

/-! The search -/

/-- The text with so many digits reads back. -/
def TriedBack (x : FloatValue) (count : Nat) : Prop :=
  toSingle (readFloat (significantText count x)) = .ok x

/-- The search ends with the first text that reads back, if there is one. -/
theorem search_found {x : FloatValue} {text : List Char} {precision fuel : Nat}
    (found : singleTextFrom x precision fuel = .ok text) {last : Nat} (start : precision ≤ last)
    (inside : last < precision + fuel) (back : TriedBack x last) :
    ∃ count, precision ≤ count ∧ count ≤ last ∧ text = significantText count x ∧
      TriedBack x count ∧ ∀ fewer, precision ≤ fewer → fewer < count → ¬ TriedBack x fewer := by
  induction fuel generalizing precision with
  | zero => omega
  | succ fuel ih =>
      rw [single_text_step] at found
      split at found
      · cases found
      · next result narrowed =>
        split at found
        · next same =>
          cases found
          rw [eq_of_beq same] at narrowed
          exact ⟨precision, le_rfl, start, rfl, narrowed, fun fewer _ _ => by omega⟩
        · next differs =>
          have passed : ¬ TriedBack x precision := by
            intro here
            rw [TriedBack, narrowed] at here
            cases here
            exact differs (beq_self_eq_true x)
          have later : precision ≠ last := fun same => passed (same ▸ back)
          obtain ⟨count, first, most, written, read, least⟩ :=
            ih found (by omega) (by omega)
          refine ⟨count, by omega, most, written, read, fun fewer low high => ?_⟩
          rcases low.lt_or_eq with more | here
          · exact least fewer more high
          · exact here ▸ passed

/-! Singles other than zero -/

section Positive

variable {m : Nat} {e : Int} {negative : Bool}

theorem widened_text (held : Held single m e) (some : 0 < m) {count : Nat} (present : 0 < count)
    (few : count ≤ 9) (negative : Bool) :
    ∃ (mantissa : Nat) (exponent : Int), (mantissa : ℚ) * 2 ^ exponent = m * 2 ^ e ∧
      ∃ n : Numeral, n.negative = negative ∧ n.magnitude =
        tried count mantissa exponent * 10 ^ lastPower count mantissa exponent ∧
      Quantity.read? (significantText count (widened negative m e)) =
        Option.some (.number n) := by
  obtain ⟨mantissa, exponent, form, same⟩ := widened_finite held negative
  obtain ⟨low, high⟩ := single_size held some
  rw [← same] at low high
  rw [form]
  exact ⟨mantissa, exponent, same, significant_read present few negative low high⟩

theorem tried_back_iff {x : FloatValue} {count : Nat} {n : Numeral}
    (read : Quantity.read? (significantText count x) = some (.number n)) :
    TriedBack x count ↔ ReadsBack x n := by
  rw [TriedBack, readFloat, read, ReadsBack]

theorem nine_tried_back (held : Held single m e) (some : 0 < m) (negative : Bool) :
    TriedBack (widened negative m e) 9 := by
  obtain ⟨mantissa, exponent, same, n, sign, value, read⟩ :=
    widened_text held some (by decide) le_rfl negative
  rw [tried_back_iff read, ← sign]
  exact nine_digits_read_back held some same value

theorem widened_text_found (held : Held single m e) (some : 0 < m) {text : List Char}
    (found : singleText (widened negative m e) = .ok text) :
    ∃ n, Quantity.read? text = Option.some (.number n) ∧ ReadsBack (widened negative m e) n ∧
      ((∀ power ∈ crowdedPowers, (m : ℚ) * 2 ^ e ≠ 2 ^ power) →
        Shortest (widened negative m e) n) := by
  obtain ⟨count, present, few, rfl, back, least⟩ :=
    search_found found (by decide) (by decide) (nine_tried_back held some negative)
  obtain ⟨mantissa, exponent, same, n, sign, value, read⟩ :=
    widened_text held some present few negative
  refine ⟨n, read, (tried_back_iff read).mp back, fun ordinary other otherBack fewer within => ?_⟩
  have positive := positive_of_same some same
  rcases Nat.lt_or_ge fewer count with less | enough
  · exfalso
    rcases Nat.eq_zero_or_pos fewer with rfl | digits
    · exact (reads_back_positive held some otherBack).ne' (digits_within_zero within)
    · obtain ⟨mantissa', exponent', same', n', sign', value', read'⟩ :=
        widened_text held some digits (less.le.trans few) negative
      refine least fewer digits less ?_
      rw [tried_back_iff read']
      exact nearest_reads_back held some digits same' sign' value' within otherBack ordinary
  · rw [value]
    exact digits_within_mono enough (tried_digits present positive exponent)

/-- At the three powers of two the text has nine digits, and one with eight reads back. -/
theorem crowded_text {power : Int} (listed : power ∈ crowdedPowers) (negative : Bool) :
    ∃ text n, singleText (widened negative (2 ^ 23) (power - 23)) = .ok text ∧
      Quantity.read? text = some (.number n) ∧
      ¬ Shortest (widened negative (2 ^ 23) (power - 23)) n := by
  rcases mem_crowded_iff.mp listed with rfl | rfl | rfl
  · refine ⟨withSign negative "1.26217745e-29".toList, ⟨negative, 126217745, -37⟩, ?_, ?_,
      not_shortest 8 (by norm_num) (by norm_num)
        (show ReadsBack _ ⟨negative, 12621775, -36⟩ from ?_) (by norm_num)⟩
    all_goals cases negative <;> rfl
  · refine ⟨withSign negative "1.54742505e+26".toList, ⟨negative, 154742505, 18⟩, ?_, ?_,
      not_shortest 8 (by norm_num) (by norm_num)
        (show ReadsBack _ ⟨negative, 15474251, 19⟩ from ?_) (by norm_num)⟩
    all_goals cases negative <;> rfl
  · refine ⟨withSign negative "1.23794004e+27".toList, ⟨negative, 123794004, 19⟩, ?_, ?_,
      not_shortest 8 (by norm_num) (by norm_num)
        (show ReadsBack _ ⟨negative, 12379401, 20⟩ from ?_) (by norm_num)⟩
    all_goals cases negative <;> rfl

end Positive

/-! Zero -/

theorem zero_text (negative : Bool) : ∃ n, singleText (widened negative 0 (-149)) =
      .ok (withSign negative ['0']) ∧
    Quantity.read? (withSign negative ['0']) = some (.number n) ∧
    ReadsBack (widened negative 0 (-149)) n ∧ n.magnitude = 0 := by
  refine ⟨⟨negative, 0, 0⟩, ?_, ?_, ?_, by norm_num [Numeral.magnitude]⟩
  all_goals cases negative <;> rfl

theorem zero_shortest (x : FloatValue) {n : Numeral} (zero : n.magnitude = 0) : Shortest x n := by
  intro _ _ count _
  exact ⟨0, 0, Nat.pow_pos (by decide), by rw [zero, Nat.cast_zero, zero_mul]⟩

/-! All singles -/

theorem crowded_form {m : Nat} {e power : Int} (held : Held single m e)
    (listed : power ∈ crowdedPowers) (same : (m : ℚ) * 2 ^ e = 2 ^ power) :
    m = 2 ^ 23 ∧ e = power - 23 := by
  have three := mem_crowded_iff.mp listed
  have formed : Held single (2 ^ 23) (power - 23) := by
    have full : 2 ^ 23 < 2 ^ single.precision := by decide
    refine ⟨full, ?_, ?_, .inr le_rfl⟩
    · change -149 ≤ power - 23
      omega
    · change power - 23 ≤ 104
      omega
  refine held_unique held formed (same.trans ?_)
  rw [zpow_sub₀ (by norm_num)]
  norm_num
  ring

theorem single_text_exists_iff {m : Nat} {e : Int} (held : Held single m e) (negative : Bool) :
    (∃ text, singleText (widened negative m e) = .ok text) ↔
      (widened negative m e).magnitude ≤ singleLimit := by
  obtain ⟨mantissa, exponent, form, same⟩ := widened_finite held negative
  have most := magnitude_upper held.fits held.below
  have below : (mantissa : ℚ) * 2 ^ exponent ≤ 34029 * 10 ^ 34 := by
    rw [same]
    refine most.trans ?_
    norm_num [single]
  have fails := single_text_fails_iff negative below
  rw [form, FloatValue.magnitude, ← not_lt, ← fails]
  cases singleText (.finite negative mantissa exponent) <;> simp

/-- There is a text exactly for the singles up to the limit. It reads back as the single, and is the
shortest that does unless the single is one of three powers of two. -/
theorem single_text_shortest_iff {x value : FloatValue} (narrowed : toSingle x = .ok value)
    (finite : value.isFinite = true) :
    ((∃ text, singleText value = .ok text) ↔ value.magnitude ≤ singleLimit) ∧
      ∀ text, singleText value = .ok text →
        ∃ n, Quantity.read? text = some (.number n) ∧ ReadsBack value n ∧
          (Shortest value n ↔ ∀ power ∈ crowdedPowers, value.magnitude ≠ 2 ^ power) := by
  obtain ⟨negative, m, e, held, rfl⟩ := single_form narrowed finite
  have magnitude := widened_magnitude held negative
  refine ⟨single_text_exists_iff held negative, fun text found => ?_⟩
  rw [magnitude]
  rcases Nat.eq_zero_or_pos m with rfl | some
  · obtain rfl : e = -149 := held.full.resolve_right (by decide)
    obtain ⟨n, found', read, back, zero⟩ := zero_text negative
    rw [found] at found'
    cases found'
    refine ⟨n, read, back, fun _ power _ => ?_, fun _ => zero_shortest _ zero⟩
    rw [Nat.cast_zero, zero_mul]
    exact (zpow_pos (by norm_num) power).ne
  · obtain ⟨n, read, back, shortest⟩ := widened_text_found held some found
    refine ⟨n, read, back, fun least power listed crowded => ?_, shortest⟩
    obtain ⟨rfl, rfl⟩ := crowded_form held listed crowded
    obtain ⟨text', n', found', read', longer⟩ := crowded_text listed negative
    rw [found] at found'
    cases found'
    rw [read] at read'
    cases read'
    exact longer least

/-- A tenth is narrowed to a single that is written with its only digit. -/
theorem single_text_shortest_tenth :
    toSingle (.finite false 7205759403792794 (-56)) =
        .ok (.finite false 7205759511166976 (-56)) ∧
      (FloatValue.finite false 7205759511166976 (-56)).isFinite = true ∧
      ∃ n, Quantity.read? "0.1".toList = some (.number n) ∧
        ReadsBack (.finite false 7205759511166976 (-56)) n ∧
        Shortest (.finite false 7205759511166976 (-56)) n := by
  have narrowed : toSingle (.finite false 7205759403792794 (-56)) =
      .ok (.finite false 7205759511166976 (-56)) := by rfl
  refine ⟨narrowed, rfl, ?_⟩
  obtain ⟨n, read, back, shortest⟩ :=
    (single_text_shortest_iff narrowed rfl).2 "0.1".toList (by rfl)
  refine ⟨n, read, back, shortest.mpr ?_⟩
  simp only [crowdedPowers, List.forall_mem_cons, FloatValue.magnitude]
  norm_num

/-- The greatest single has no text, and `2 ^ -96` one with nine digits where eight read back. -/
theorem single_text_missing_or_long :
    (toSingle (.finite false 9007198717870080 75) = .ok (.finite false 9007198717870080 75) ∧
      ∃ e, singleText (.finite false 9007198717870080 75) = .error e) ∧
    toSingle (.finite false 4503599627370496 (-148)) =
        .ok (.finite false 4503599627370496 (-148)) ∧
      singleText (.finite false 4503599627370496 (-148)) = .ok "1.26217745e-29".toList ∧
      Quantity.read? "1.26217745e-29".toList = some (.number ⟨false, 126217745, -37⟩) ∧
      Quantity.read? "1.2621775e-29".toList = some (.number ⟨false, 12621775, -36⟩) ∧
      ReadsBack (.finite false 4503599627370496 (-148)) ⟨false, 12621775, -36⟩ ∧
      ¬ Shortest (.finite false 4503599627370496 (-148)) ⟨false, 126217745, -37⟩ := by
  have back : ReadsBack (.finite false 4503599627370496 (-148)) ⟨false, 12621775, -36⟩ := by rfl
  exact ⟨⟨by rfl, _, by rfl⟩, by rfl, by rfl, by rfl, by rfl, back,
    not_shortest 8 (by decide) (by decide) back (by decide)⟩

end SchemaCompiler.Decimal
