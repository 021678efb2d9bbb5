import SchemaCompiler.Proofs.Decimal.Representable
import SchemaCompiler.Proofs.Decimal.ShortestDouble
import SchemaCompiler.Proofs.Json.Integer

/-!
Doubles in JSON text. The text of a double is a number with a point or an exponent, or a name, and
reads back as the double.
-/

namespace SchemaCompiler.Json

open Text Decimal

/-- A number with a fraction, an exponent, or both. -/
inductive FloatShape : List Char → Prop
  | point {whole fraction : List Char} (part : WholePart whole) (present : fraction ≠ [])
      (places : AsciiDigits fraction) : FloatShape (whole ++ '.' :: fraction)
  | scientific {whole fraction : List Char} (part : WholePart whole) (present : fraction ≠ [])
      (places : AsciiDigits fraction) (power : Int) :
      FloatShape (whole ++ '.' :: (fraction ++ exponentText power))
  | exponent {whole : List Char} (part : WholePart whole) (power : Int) :
      FloatShape (whole ++ exponentText power)

/-! Reading -/

theorem fraction_read {fraction rest : List Char} (places : AsciiDigits fraction)
    (ends : ∀ c, rest.head? = some c → isAsciiDigit c = false) :
    fractionDigits ('.' :: (fraction ++ rest)) = (fraction, rest) := by
  obtain ⟨inside, behind⟩ := take_run places ends
  rw [fractionDigits, inside, behind]

theorem exponent_read (power : Int) {rest : List Char} (ends : EndsNumber rest) :
    exponentPart? (exponentText power ++ rest) = some (power, rest) := by
  obtain ⟨digits, text, nonempty, run, value⟩ := exponent_text_digits power
  obtain ⟨inside, behind⟩ := take_run run (ends_number_digits ends)
  rw [text]
  by_cases negative : power < 0
  · have size : -(decimalValue digits : Int) = power := by omega
    simp [exponentPart?, negative, inside, behind, nonempty, size]
  · have size : (decimalValue digits : Int) = power := by omega
    simp [exponentPart?, negative, inside, behind, nonempty, size]

theorem exponent_ends (power : Int) (rest : List Char) :
    ∀ c, (exponentText power ++ rest).head? = some c → isAsciiDigit c = false := by
  rintro c ⟨⟩
  decide

theorem point_ends (rest : List Char) :
    ∀ c, ('.' :: rest).head? = some c → isAsciiDigit c = false := by
  rintro c ⟨⟩
  decide

theorem whole_part_ascii {whole : List Char} (part : WholePart whole) :
    whole ≠ [] ∧ AsciiDigits whole := by
  cases part with
  | zero => exact ⟨List.cons_ne_nil _ _, zero_ascii⟩
  | digits _ ascii => exact ⟨List.cons_ne_nil _ _, ascii⟩

theorem exponent_no_point (power : Int) (rest : List Char) :
    fractionDigits (exponentText power ++ rest) = ([], []) := rfl

/-- JSON reads such a number as the double of the numeral that the text is. -/
theorem float_read {negative : Bool} {text rest : List Char} {n : Numeral}
    (shape : FloatShape text) (numeral : Numeral.readUnsigned? negative text = some n)
    (ends : EndsNumber rest) :
    readUnsignedNumber? negative (text ++ rest) = some (.ok (.float n.toDouble, rest)) := by
  cases shape with
  | @point whole fraction part present places =>
      obtain ⟨nonempty, ascii⟩ := whole_part_ascii part
      have read := read_unsigned_point negative nonempty ascii places ends_nil
      rw [List.append_nil, numeral] at read
      cases read
      have first := whole_part_read part (point_ends (fraction ++ rest))
      have second := fraction_read places (ends_number_digits ends)
      simp [readUnsignedNumber?, first, second, exponent_absent ends, present]
  | @scientific whole fraction part present places power =>
      obtain ⟨nonempty, ascii⟩ := whole_part_ascii part
      have read := read_unsigned_point negative nonempty ascii places (ends_exponent power)
      rw [numeral, read_exponent_text] at read
      cases read
      have first := whole_part_read part (point_ends (fraction ++ (exponentText power ++ rest)))
      have second := fraction_read places (exponent_ends power rest)
      simp [readUnsignedNumber?, first, second, exponent_read power ends, present]
  | @exponent whole part power =>
      obtain ⟨nonempty, ascii⟩ := whole_part_ascii part
      have read := read_unsigned_whole negative nonempty ascii (ends_exponent power)
        (by simp [exponentText])
      rw [numeral, read_exponent_text] at read
      cases read
      have first := whole_part_read part (exponent_ends power rest)
      simp [readUnsignedNumber?, first, exponent_no_point, exponent_read power ends]

/-! Writing -/

/-- Digits that do not start with a zero. -/
structure Leading (digits : List Char) : Prop where
  nonempty : digits ≠ []
  ascii : AsciiDigits digits
  first : digits.head? ≠ some '0'

variable {digits : List Char} {d : Digits} {format : FloatFormat}

theorem leading_whole (leading : Leading digits) {more : List Char} (ascii : AsciiDigits more) :
    WholePart (digits ++ more) := by
  obtain ⟨nonempty, all, first⟩ := leading
  obtain ⟨c, rest, rfl⟩ := List.exists_cons_of_ne_nil nonempty
  exact .digits (by simpa using first) (ascii_append all ascii)

theorem leading_take (leading : Leading digits) (count : Nat) :
    WholePart (digits.take (count + 1)) := by
  obtain ⟨nonempty, all, first⟩ := leading
  obtain ⟨c, rest, rfl⟩ := List.exists_cons_of_ne_nil nonempty
  obtain ⟨digit, behind⟩ := List.forall_mem_cons.mp all
  rw [List.take_succ_cons]
  refine .digits (by simpa using first) (List.forall_mem_cons.mpr ⟨digit, ?_⟩)
  exact fun d member => behind d (List.mem_of_mem_take member)

theorem positional_float (leading : Leading d.digits) (zero : format.fractionalZero = true) :
    FloatShape (positionalText format d) := by
  simp only [positionalText, zero, if_true]
  split
  · exact .point .zero (by simp [leading.nonempty])
      (ascii_append (zeros_ascii (d.power.natAbs - 1)) leading.ascii)
  · split
    · next whole =>
      rw [List.take_of_length_le (List.drop_eq_nil_iff.mp whole)]
      exact .point (leading_whole leading (zeros_ascii _)) (List.cons_ne_nil _ _) zero_ascii
    · next fraction present =>
      have long : d.power.toNat + 1 < d.digits.length :=
        not_le.mp fun short => present (List.drop_eq_nil_iff.mpr short)
      rw [Nat.sub_eq_zero_of_le long.le, zeros, List.replicate_zero, List.append_nil]
      exact .point (leading_take leading d.power.toNat) present
        fun c member => leading.ascii c (List.mem_of_mem_drop member)

theorem scientific_float (leading : Leading d.digits) : FloatShape (scientificText d) := by
  rw [scientificText]
  split
  · next first second rest same =>
    rw [same] at leading
    exact .scientific (leading_take leading 0) (List.cons_ne_nil second rest)
      (fun c member => leading.ascii c (List.mem_cons_of_mem first member)) d.power
  · have whole := leading_whole leading (List.forall_mem_nil _)
    rw [List.append_nil] at whole
    exact .exponent whole d.power

theorem digits_text_float (leading : Leading d.digits) (zero : format.fractionalZero = true) :
    FloatShape (digitsText format d) := by
  rw [digitsText]
  split
  · exact positional_float leading zero
  · exact scientific_float leading

theorem float_shape_head {text : List Char} (shape : FloatShape text) :
    ∃ c more, text = c :: more ∧ isAsciiDigit c = true := by
  obtain ⟨whole, behind, rfl, part⟩ : ∃ whole behind, text = whole ++ behind ∧ WholePart whole := by
    cases shape with
    | point part => exact ⟨_, _, rfl, part⟩
    | scientific part => exact ⟨_, _, rfl, part⟩
    | exponent part => exact ⟨_, _, rfl, part⟩
  obtain ⟨nonempty, ascii⟩ := whole_part_ascii part
  obtain ⟨c, more, rfl⟩ := List.exists_cons_of_ne_nil nonempty
  exact ⟨c, more ++ behind, rfl, ascii c (by simp)⟩

/-! Doubles -/

/-- The form in which doubles are read: that in which their format holds them. -/
def IsDouble : FloatValue → Prop
  | .finite _ mantissa exponent => Held double mantissa exponent
  | _ => True

theorem of_ratio_double (negative : Bool) (num : Nat) {den : Nat} (divisor : 0 < den) :
    IsDouble (.ofRatio double negative num den) := by
  rw [FloatValue.ofRatio]
  cases rounded : roundRatio double num den with
  | none => trivial
  | some parts => exact round_ratio_held (by decide) (by decide) divisor rounded

theorem to_double_double (n : Numeral) : IsDouble n.toDouble := by
  obtain ⟨num, den, divisor, value⟩ := magnitude_ratio n
  rw [to_double_of_ratio n divisor value]
  exact of_ratio_double n.negative num divisor

theorem shortest_digits_leading {m : Nat} {e : Int} (held : Held double m e) (some : 0 < m) :
    Leading (shortestDigits m e).digits := by
  obtain ⟨coefficient, power, positive, _, found⟩ := shortest_digits_found held some
  obtain ⟨present, ascii, _⟩ := of_coefficient_digits positive power
  rw [found]
  refine ⟨present, ascii, fun zero => head_to_digits_ne_zero positive ?_⟩
  obtain ⟨count, whole⟩ : ∃ count, Nat.toDigits 10 coefficient =
      (Digits.ofCoefficient coefficient power).digits ++ zeros count := strip_zeros _
  rw [whole, List.head?_append_of_ne_nil _ present]
  exact zero

/-- A finite double is written as a number that denotes it. -/
theorem finite_literal {negative : Bool} {m : Nat} {e : Int} (held : Held double m e) :
    ∃ text n, floatLiteral (.finite negative m e) = withSign negative text ∧ FloatShape text ∧
      Numeral.readUnsigned? negative text = some n ∧ n.toDouble = .finite negative m e := by
  rcases m with _ | below
  · obtain rfl : e = -1074 := held.full.resolve_right (by decide)
    have point : FloatShape (['0'] ++ '.' :: ['0']) :=
      .point .zero (List.cons_ne_nil _ _) zero_ascii
    exact ⟨['0', '.', '0'], ⟨negative, 0, -1⟩, rfl, point, rfl, rfl⟩
  · have some : 0 < below + 1 := Nat.succ_pos below
    obtain ⟨n, read, back⟩ := shortest_digits_denote held some ⟨16, true⟩ negative
    exact ⟨_, n, rfl, digits_text_float (shortest_digits_leading held some) rfl, read, back⟩

theorem double_read {x : FloatValue} (double : IsDouble x) (rest : List Char)
    (ends : EndsNumber rest) : readScalar (floatLiteral x ++ rest) = .ok (.float x, rest) := by
  cases x with
  | notANumber => rfl
  | infinite negative => cases negative <;> rfl
  | finite negative m e =>
      obtain ⟨text, n, written, shape, numeral, back⟩ := finite_literal double
      have number := float_read shape numeral ends
      obtain ⟨c, more, rfl, digit⟩ := float_shape_head shape
      rw [written, with_sign_append, ← back]
      exact number_read digit number

end SchemaCompiler.Json
