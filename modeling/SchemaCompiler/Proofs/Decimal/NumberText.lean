import SchemaCompiler.Proofs.Decimal.FloatText

/-!
Finite decimal texts: a sign, digits with or without a point among them, and a power of ten.
Reading one keeps its coefficient and its exponent as they are written, in whatever script the
digits are, as long as both are within the magnitudes of a decimal.
-/

namespace SchemaCompiler.Decimal

open Text

/-- The power of ten behind a number: a mark, a sign and digits. -/
structure PowerText where
  capital : Bool
  sign : Sign
  digits : List Char
  present : digits ≠ []
  run : DecimalDigits digits

def PowerText.mark (p : PowerText) : Char := if p.capital then 'E' else 'e'

def PowerText.text (p : PowerText) : List Char := p.mark :: (p.sign.text ++ p.digits)

def PowerText.value (p : PowerText) : Int :=
  if p.sign.negative then -decimalValue p.digits else decimalValue p.digits

/-- A number as it is written. The digits in front of the point may be left out, or those behind
it, or the point with them, but some digit stands on one of its sides. -/
structure NumberText where
  sign : Sign
  whole : List Char
  fraction : Option (List Char)
  power : Option PowerText
  present : whole ++ fraction.getD [] ≠ []
  wholeRun : DecimalDigits whole
  fractionRun : DecimalDigits (fraction.getD [])

namespace NumberText

variable (t : NumberText)

/-- The digits behind the point. -/
def places : List Char := t.fraction.getD []

def pointText : List Char :=
  match t.fraction with
  | none => []
  | some digits => '.' :: digits

def powerText : List Char := (t.power.map PowerText.text).getD []

def powerValue : Int := (t.power.map PowerText.value).getD 0

def unsigned : List Char := t.whole ++ (t.pointText ++ t.powerText)

def text : List Char := t.sign.text ++ t.unsigned

/-- The number that is written. -/
def value : ℚ :=
  (if t.sign.negative then -1 else 1) *
    (decimalValue t.whole + decimalValue t.places / 10 ^ t.places.length) * 10 ^ t.powerValue

/-- The digits as one whole number, and the power of ten of the last of them. -/
def numeral : Numeral :=
  ⟨t.sign.negative, decimalValue (t.whole ++ t.places), t.powerValue - t.places.length⟩

end NumberText

/-! Values -/

theorem sign_abs (sign : Sign) : |(if sign.negative then -1 else 1 : ℚ)| = 1 := by
  split <;> simp

theorem abs_value (t : NumberText) : |t.value| = t.numeral.magnitude := by
  have digits : (decimalValue (t.whole ++ t.places) : ℚ) =
      decimalValue t.whole * 10 ^ t.places.length + decimalValue t.places := by
    rw [decimal_value_append]
    push_cast
    rfl
  have place : (0 : ℚ) < 10 ^ t.places.length := by positivity
  have size : (0 : ℚ) ≤
      (decimalValue t.whole + decimalValue t.places / 10 ^ t.places.length) := by positivity
  rw [NumberText.value, abs_mul, abs_mul, sign_abs, abs_of_nonneg size,
    abs_of_pos (zpow_pos (by norm_num) _), one_mul, Numeral.magnitude, NumberText.numeral, digits,
    sub_eq_add_neg, ten_power_add, zpow_neg, zpow_natCast]
  field_simp

/-! Reading -/

theorem read_power_text (p : PowerText) : Numeral.readExponent? p.text = some p.value := by
  have all : p.digits.all isDecimalDigit = true := List.all_eq_true.mpr p.run
  have mark : (p.mark == 'e' || p.mark == 'E') = true := by
    rw [PowerText.mark]
    split <;> rfl
  have some : p.digits.isEmpty = false := List.isEmpty_eq_false_iff.mpr p.present
  rw [PowerText.text, PowerText.value]
  cases p.sign with
  | plus => simp [Numeral.readExponent?, Sign.text, Sign.negative, mark, some, all]
  | minus => simp [Numeral.readExponent?, Sign.text, Sign.negative, mark, some, all]
  | bare =>
      -- A digit is neither of the signs that the exponent may start with.
      obtain ⟨c, more, digits⟩ := List.exists_cons_of_ne_nil p.present
      have digit := p.run c (by simp [digits])
      have minus : c ≠ '-' := by
        rintro rfl
        exact absurd digit (by decide)
      have plus : c ≠ '+' := by
        rintro rfl
        exact absurd digit (by decide)
      rw [digits] at some all ⊢
      simp [Numeral.readExponent?, Sign.text, Sign.negative, mark, some, all, minus, plus]

theorem read_power (t : NumberText) :
    Numeral.readExponent? t.powerText = some t.powerValue := by
  rw [NumberText.powerText, NumberText.powerValue]
  cases t.power with
  | none => rfl
  | some p => exact read_power_text p

theorem ends_power (t : NumberText) : EndsDigits t.powerText ∧ t.powerText.head? ≠ some '.' := by
  rw [NumberText.powerText]
  cases t.power with
  | none => exact ⟨ends_nil, by simp⟩
  | some p =>
      have mark : isDecimalDigit p.mark = false ∧ p.mark ≠ '.' := by
        rw [PowerText.mark]
        split <;> decide
      refine ⟨?_, by simpa [PowerText.text] using mark.2⟩
      rintro c ⟨⟩
      exact mark.1

/-- With a point or without one. -/
theorem read_unsigned (t : NumberText) :
    Numeral.readUnsigned? t.sign.negative t.unsigned = some t.numeral := by
  obtain ⟨ends, noPoint⟩ := ends_power t
  have power := read_power t
  have present := t.present
  have places := t.fractionRun
  rw [NumberText.unsigned, NumberText.numeral, NumberText.pointText, NumberText.places]
  cases point : t.fraction with
  | none =>
      rw [point, Option.getD_none, List.append_nil] at present
      have read := read_whole_digits t.sign.negative present t.wholeRun ends noPoint
      rw [power] at read
      simpa using read
  | some digits =>
      rw [point, Option.getD_some] at present places
      have read := read_point_digits t.sign.negative present t.wholeRun places ends
      rw [power] at read
      simpa using read

theorem decimal_digit_kept {c : Char} (digit : isDecimalDigit c = true) : Kept c := by
  refine ⟨decimal_digit_solid digit, ?_⟩
  rintro rfl
  exact absurd digit (by decide)

theorem power_text_kept (p : PowerText) : ∀ c ∈ p.text, Kept c := by
  have mark : Kept p.mark := by
    rw [PowerText.mark]
    split <;> exact ⟨by decide, by decide⟩
  refine List.forall_mem_cons.mpr ⟨mark, List.forall_mem_append.mpr ⟨p.sign.text_kept, ?_⟩⟩
  exact fun c member => decimal_digit_kept (p.run c member)

theorem unsigned_kept (t : NumberText) : ∀ c ∈ t.unsigned, Kept c := by
  have whole : ∀ c ∈ t.whole, Kept c := fun c member => decimal_digit_kept (t.wholeRun c member)
  have places : ∀ c ∈ t.fraction.getD [], Kept c :=
    fun c member => decimal_digit_kept (t.fractionRun c member)
  have point : ∀ c ∈ t.pointText, Kept c := by
    rw [NumberText.pointText]
    split
    · exact List.forall_mem_nil Kept
    · next digits split =>
      rw [split] at places
      exact kept_point places
  have power : ∀ c ∈ t.powerText, Kept c := by
    rw [NumberText.powerText]
    cases t.power with
    | none => exact List.forall_mem_nil Kept
    | some p => exact power_text_kept p
  exact List.forall_mem_append.mpr ⟨whole, List.forall_mem_append.mpr ⟨point, power⟩⟩

theorem unsigned_numeric (t : NumberText) : Numeric t.unsigned := by
  rw [NumberText.unsigned, NumberText.pointText]
  cases whole : t.whole with
  | cons c more => exact ⟨c, _, rfl, .inl (t.wholeRun c (by simp [whole]))⟩
  | nil =>
      cases point : t.fraction with
      | some digits => exact ⟨'.', _, rfl, .inr rfl⟩
      | none => exact absurd (by rw [whole, point]; rfl) t.present

theorem read_number_text (t : NumberText) :
    Quantity.read? t.text = if t.numeral.inRange then some (.number t.numeral) else none := by
  rw [NumberText.text, read_sign_text t.sign (unsigned_numeric t) (unsigned_kept t),
    read_unsigned]
  rfl

end SchemaCompiler.Decimal
