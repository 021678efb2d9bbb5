import Mathlib.Data.Nat.Digits.Lemmas
import SchemaCompiler.Proofs.Decimal.FloatText
import SchemaCompiler.Proofs.Json.Integer
import SchemaCompiler.Proofs.Validation.Verdict

/-!
What whole number fields accept, for each width and each limit of digits, and with which kind of
error they refuse anything else.
-/

namespace SchemaCompiler.Validation

open Decimal Text

variable {f : Field} {value : Json}

/-! Digits -/

theorem whole_digit_split (negative : Bool) (m : Nat) :
    Numeral.digitSplit ⟨negative, m, 0⟩ = (digitLength m, 0) := by
  by_cases zero : m = 0
  · subst zero
    rfl
  · simp [Numeral.digitSplit, zero]

/-- The text of an integer has the digits of its size and none behind a point. -/
theorem integer_digit_split {n : Int} (short : digitLength n.natAbs ≤ 20) :
    digitSplit? (toString n).toList = some (digitLength n.natAbs, 0) := by
  have ascii := to_digits_ascii n.natAbs
  have present := Nat.toDigits_ne_nil (n := n.natAbs) (b := 10)
  have read := read_unsigned_whole (decide (n < 0)) present ascii ends_nil (by simp)
  rw [List.append_nil, decimal_value_to_digits] at read
  have readable := readable_append present ascii (List.forall_mem_nil Kept)
  rw [List.append_nil] at readable
  -- So few digits are far below the magnitude that no numeral may reach.
  have inRange : Numeral.inRange ⟨decide (n < 0), n.natAbs, 0⟩ = true := by
    simp [Numeral.inRange, Numeral.lowestPower, Numeral.highestPower]
    omega
  have text : (toString n).toList = withSign (decide (n < 0)) (Nat.toDigits 10 n.natAbs) :=
    Json.integer_text_sign n
  rw [digitSplit?, text, read_with_sign read readable, inRange]
  simp [Quantity.digitSplit, whole_digit_split]

/-- The decimal digits of a whole number without its sign. Zero has one. -/
def digitsOf (n : Int) : Nat := max 1 (Nat.digits 10 n.natAbs).length

theorem digit_length_eq (n : Int) : digitLength n.natAbs = digitsOf n := by
  refine eq_of_forall_ge_iff fun limit => ?_
  rw [digitLength, digitsOf, max_le_iff, Nat.digits_length_le_iff (by decide)]
  by_cases some : 0 < limit
  · rw [Nat.length_toDigits_le_iff (by decide) some, and_iff_right (Nat.succ_le_of_lt some)]
  · have present := List.length_pos_iff.mpr (Nat.toDigits_ne_nil (n := n.natAbs) (b := 10))
    exact iff_of_false (by omega) fun both => some both.1

/-! Widths -/

/-- A whole number of so many bits, in two's complement or without a sign. -/
def OfWidth (signed : Bool) (bits : Nat) (n : Int) : Prop :=
  if signed then -2 ^ (bits - 1) ≤ n ∧ n < 2 ^ (bits - 1) else 0 ≤ n ∧ n < 2 ^ bits

def wholeRange (signed : Bool) (bits : Nat) : IntegerRange :=
  if signed then .signed bits else .unsigned bits

theorem span_eq (bits : Nat) : IntegerRange.span bits = 2 ^ bits := by
  simp [IntegerRange.span]

theorem whole_range_iff (signed : Bool) (bits : Nat) (n : Int) :
    (wholeRange signed bits).contains n = true ↔ OfWidth signed bits n := by
  rw [contains_iff, wholeRange, OfWidth]
  cases signed with
  | true => simp only [if_true, IntegerRange.signed, span_eq, Int.le_sub_one_iff]
  | false =>
      simp only [Bool.false_eq_true, if_false, IntegerRange.unsigned, span_eq, Int.le_sub_one_iff]

theorem of_width_mono {signed : Bool} {bits wide : Nat} {n : Int} (narrower : bits ≤ wide)
    (fits : OfWidth signed bits n) : OfWidth signed wide n := by
  cases signed with
  | true =>
      have grows : (2 : Int) ^ (bits - 1) ≤ 2 ^ (wide - 1) :=
        pow_le_pow_right₀ (by decide) (Nat.sub_le_sub_right narrower 1)
      obtain ⟨low, high⟩ := fits
      exact ⟨by omega, by omega⟩
  | false =>
      have grows : (2 : Int) ^ bits ≤ 2 ^ wide := pow_le_pow_right₀ (by decide) narrower
      obtain ⟨low, high⟩ := fits
      exact ⟨low, by omega⟩

theorem of_width_digits {signed : Bool} {n : Int} (fits : OfWidth signed 64 n) :
    digitLength n.natAbs ≤ 20 := by
  rw [digitLength, Nat.length_toDigits_le_iff (by decide) (by decide)]
  cases signed with
  | true =>
      obtain ⟨low, high⟩ := fits
      omega
  | false =>
      obtain ⟨low, high⟩ := fits
      omega

/-- Whether the numbers of a whole number datatype have a sign, and how many bits. -/
def wholeWidth? : Datatype → Option (Bool × Nat)
  | .signed64 => some (true, 64)
  | .unsigned64 => some (false, 64)
  | .signed32 => some (true, 32)
  | .unsigned32 => some (false, 32)
  | .signed16 => some (true, 16)
  | .unsigned16 => some (false, 16)
  | .byte => some (false, 8)
  | _ => none

theorem extract_whole [Pattern.CharacterNames] {signed : Bool} {bits : Nat}
    (width : wholeWidth? f.datatype = some (signed, bits)) (value : Json) :
    extractValue f value = extractInteger f (wholeRange signed bits) value ∧
      f.datatype.isSigned = signed ∧ bits ≤ 64 := by
  unfold extractValue
  cases kind : f.datatype with
  | signed64 | unsigned64 | signed32 | unsigned32 | signed16 | unsigned16 | byte =>
      rw [kind] at width
      cases width
      exact ⟨rfl, rfl, by decide⟩
  | _ =>
      rw [kind] at width
      cases width

/-! Verdicts -/

theorem to_integer_ok_iff (signed : Bool) (value : Json) (n : Int) :
    toInteger signed value = .ok n ↔ value = .integer n ∧ OfWidth signed 64 n := by
  rw [← whole_range_iff]
  constructor
  · intro converted
    obtain rfl := to_integer_ok converted
    refine ⟨rfl, ?_⟩
    by_contra outside
    have failed : toInteger signed (.integer n) = .error (.outside64Bits n signed) :=
      if_neg outside
    rw [failed] at converted
    cases converted
  · rintro ⟨rfl, inside⟩
    exact if_pos inside

theorem integer_verdict (f : Field) (signed : Bool) (value : Json) :
    Verdict f (fun n => value = .integer n ∧ OfWidth signed 64 n)
      (fun kind => kind = .cast ∧ ∀ n, ¬ (value = .integer n ∧ OfWidth signed 64 n))
      (integerOf f signed value) := by
  have converted := to_integer_ok_iff signed value
  rw [integerOf]
  cases outcome : toInteger signed value with
  | ok n =>
      rw [outcome] at converted
      refine verdict_of_ok_iff .shape (fun m => ?_) fun none => ?_
      · simpa using converted m
      · exact absurd ((converted n).mp rfl) (none n)
  | error e =>
      rw [outcome] at converted
      refine verdict_of_ok_iff .shape (fun m => ?_) fun _ => rfl
      simpa [reject] using converted m

theorem narrow_verdict (f : Field) (signed : Bool) (bits : Nat) (n : Int) :
    Verdict f (fun m => OfWidth signed bits m ∧ m = n)
      (fun kind => kind = .narrowing ∧ ¬ OfWidth signed bits n)
      (narrowTo f (wholeRange signed bits) n) := by
  rw [narrowTo, narrow]
  refine verdict_of_iff (verdict_choice (OfWidth signed bits n) n
    (.width (.integer ⟨n, wholeRange signed bits⟩)) (fun fits => ?_) fun wide => ?_)
    (fun m => ?_) fun kind => ?_
  · rw [if_pos ((whole_range_iff signed bits n).mpr fits)]
  · rw [if_neg (mt (whole_range_iff signed bits n).mp wide)]
  · constructor
    · rintro ⟨fits, rfl⟩
      exact ⟨fits, rfl⟩
    · rintro ⟨fits, rfl⟩
      exact ⟨fits, rfl⟩
  · rfl

theorem limit_verdict (f : Field) (limit : Option Int) (size : Nat) (violation : Int → Violation)
    (bound : ∀ limit, (violation limit).kind = .bound) :
    Verdict f (fun _ : Unit => Within limit size) (fun kind => kind = .bound ∧ ¬ Within limit size)
      (match limit with
        | some limit => if limit < size then reject f (violation limit) else .ok ()
        | none => .ok ()) := by
  cases limit with
  | none => exact verdict_of_iff (verdict_ok f ()) (by simp [Within]) (by simp [Within])
  | some limit =>
      have within : Within (some limit) size ↔ ¬ limit < size := by simp [Within]
      rw [within]
      exact verdict_of_iff (verdict_choice (¬ limit < size) () (violation limit)
        (fun low => if_neg low) fun high => if_pos (not_not.mp high)) (by simp) (by simp [bound])

theorem size_verdict (f : Field) (size : Nat) :
    Verdict f (fun _ => Within f.characters size)
      (fun kind => kind = .bound ∧ ¬ Within f.characters size) (checkSize f size) :=
  limit_verdict f f.characters size (.size · size) fun _ => rfl

theorem digits_verdict {n : Int} (fits : OfWidth signed 64 n)
    (decimals : ∀ limit, f.decimals = some limit → 0 ≤ limit) :
    Verdict f (fun _ => Within f.characters (digitsOf n))
      (fun kind => kind = .bound ∧ ¬ Within f.characters (digitsOf n))
      (checkDigits f (toString n).toList) := by
  have split := integer_digit_split (of_width_digits fits)
  -- No digit stands behind a point, so a limit of places that is not negative is kept.
  have placed : Within f.decimals 0 := by simpa [Within] using decimals
  rw [checkDigits, split, digit_length_eq]
  have both := verdict_bind (size_verdict f (digitsOf n)) fun _ _ =>
    limit_verdict f f.decimals 0 (.decimals · 0) fun _ => rfl
  exact verdict_of_iff both (by simp [placed]) (by simp [placed])

theorem whole_verdict [Pattern.CharacterNames] {signed : Bool} {bits : Nat}
    (width : wholeWidth? f.datatype = some (signed, bits))
    (decimals : ∀ limit, f.decimals = some limit → 0 ≤ limit) (value : Json) :
    Verdict f
      (fun v => ∃ n, (value = .integer n ∧ OfWidth signed 64 n) ∧ OfWidth signed bits n ∧
        Within f.characters (digitsOf n) ∧ v = .integer n)
      (fun kind => (kind = .cast ∧ ∀ n, ¬ (value = .integer n ∧ OfWidth signed 64 n)) ∨
        ∃ n, (value = .integer n ∧ OfWidth signed 64 n) ∧
          ((kind = .narrowing ∧ ¬ OfWidth signed bits n) ∨
            (OfWidth signed bits n ∧ kind = .bound ∧ ¬ Within f.characters (digitsOf n))))
      (extractValue f value) := by
  obtain ⟨extracts, sign, narrower⟩ := extract_whole width value
  rw [extracts, extractInteger, sign]
  have steps := verdict_bind (integer_verdict f signed value) fun n integer =>
    verdict_bind (narrow_verdict f signed bits n) fun m narrowed =>
      verdict_bind (digits_verdict (of_width_mono narrower narrowed.1) decimals)
        fun _ _ => verdict_ok f (Value.integer m)
  exact verdict_of_iff steps (by simp) (by simp)

/-- Whole number fields accept the numbers of their width that have no more digits than allowed,
and give them back. A value that is no number of 64 bits cannot be cast, any other number outside
the width cannot be narrowed, and only then do the digits count. -/
theorem integer_extracted [Pattern.CharacterNames] {signed : Bool} {bits : Nat}
    (consistent : f.Consistent)
    (width : wholeWidth? f.datatype = some (signed, bits))
    (decimals : ∀ limit, f.decimals = some limit → 0 ≤ limit) (value : Json) :
    (∀ typed, f.extract value = .ok typed ↔ ∃ n, value = .integer n ∧ OfWidth signed bits n ∧
      Within f.characters (digitsOf n) ∧ typed = ⟨f.datatype, .integer n⟩) ∧
    (RefusedAs f .cast (f.extract value) ↔ ¬ ∃ n, value = .integer n ∧ OfWidth signed 64 n) ∧
    (RefusedAs f .narrowing (f.extract value) ↔
      ∃ n, value = .integer n ∧ OfWidth signed 64 n ∧ ¬ OfWidth signed bits n) ∧
    (RefusedAs f .bound (f.extract value) ↔
      ∃ n, value = .integer n ∧ OfWidth signed bits n ∧
        ¬ Within f.characters (digitsOf n)) := by
  have verdict := verdict_extract consistent (whole_verdict width decimals value)
  have wide {n : Int} (fits : OfWidth signed bits n) : OfWidth signed 64 n :=
    of_width_mono (extract_whole width value).2.2 fits
  refine ⟨fun typed => ?_, ?_, ?_, ?_⟩
  · rw [verdict.accepted typed]
    constructor
    · rintro ⟨_, ⟨n, ⟨rfl, _⟩, fits, few, rfl⟩, rfl⟩
      exact ⟨n, rfl, fits, few, rfl⟩
    · rintro ⟨n, rfl, fits, few, rfl⟩
      exact ⟨_, ⟨n, ⟨rfl, wide fits⟩, fits, few, rfl⟩, rfl⟩
  · rw [verdict.refused]
    simp
  · rw [verdict.refused]
    simp [and_assoc]
  · rw [verdict.refused]
    constructor
    · rintro (⟨⟨⟩, _⟩ | ⟨n, ⟨same, _⟩, ⟨⟨⟩, _⟩ | ⟨fits, _, many⟩⟩)
      exact ⟨n, same, fits, many⟩
    · rintro ⟨n, same, fits, many⟩
      exact .inr ⟨n, ⟨same, wide fits⟩, .inr ⟨fits, rfl, many⟩⟩

open scoped Pattern.Unnamed

def portField : Field := { title := "port", datatype := .unsigned16, characters := some 4 }

theorem integer_extracted_port :
    portField.extract (.integer 9999) = .ok ⟨.unsigned16, .integer 9999⟩ ∧
    RefusedAs portField .cast (portField.extract (.integer (-1))) ∧
    RefusedAs portField .narrowing (portField.extract (.integer 65536)) ∧
    RefusedAs portField .bound (portField.extract (.integer 10000)) := by
  have consistent : portField.Consistent := by simp [Field.Consistent, portField]
  have width : wholeWidth? portField.datatype = some (false, 16) := rfl
  have decimals : ∀ limit, portField.decimals = some limit → 0 ≤ limit := by simp [portField]
  have outcome := integer_extracted consistent width decimals
  refine ⟨?_, ?_, ?_, ?_⟩
  · refine ((outcome _).1 _).mpr ⟨9999, rfl, ?_, ?_, rfl⟩
    · simp [OfWidth]
    · simp [Within, portField, digitsOf]
  · refine (outcome _).2.1.mpr ?_
    rintro ⟨_, ⟨⟩, fits⟩
    simp [OfWidth] at fits
  · refine (outcome _).2.2.1.mpr ⟨65536, rfl, ?_, ?_⟩
    · simp [OfWidth]
    · simp [OfWidth]
  · refine (outcome _).2.2.2.mpr ⟨10000, rfl, ?_, ?_⟩
    · simp [OfWidth]
    · simp [Within, portField, digitsOf]

end SchemaCompiler.Validation
