import SchemaCompiler.Proofs.Decimal.Narrowing
import SchemaCompiler.Proofs.Decimal.NumeralText

/-!
The texts of floating point values read back: with or without a point, with or without an
exponent, a text denotes what its digits do.
-/

namespace SchemaCompiler.Decimal

open Text

def Numeral.magnitude (n : Numeral) : ℚ := n.coefficient * 10 ^ n.exponent

def Digits.value (d : Digits) : ℚ := decimalValue d.digits * 10 ^ (d.power - d.digits.length + 1)

/-- The text without its sign reads as a numeral of the given magnitude. -/
def Denotes (negative : Bool) (text : List Char) (value : ℚ) : Prop :=
  ∃ n : Numeral, Numeral.readUnsigned? negative text = some n ∧ n.negative = negative ∧
    n.magnitude = value

theorem ten_power_add (a b : Int) : (10 : ℚ) ^ (a + b) = 10 ^ a * 10 ^ b :=
  zpow_add₀ (by norm_num) a b

theorem zeros_ascii (count : Nat) : AsciiDigits (zeros count) := by
  intro c member
  rw [zeros] at member
  rw [List.eq_of_mem_replicate member]
  decide

theorem ascii_append {front back : List Char} (first : AsciiDigits front)
    (second : AsciiDigits back) : AsciiDigits (front ++ back) := by
  intro c member
  rcases List.mem_append.mp member with before | behind
  · exact first c before
  · exact second c behind

theorem ends_nil : EndsDigits [] := by simp [EndsDigits]

theorem denotes_whole (negative : Bool) {whole : List Char} (nonempty : whole ≠ [])
    (ascii : AsciiDigits whole) : Denotes negative whole (decimalValue whole) := by
  have read := read_unsigned_whole negative nonempty ascii ends_nil (by simp)
  rw [List.append_nil] at read
  exact ⟨_, read, rfl, by simp [Numeral.magnitude]⟩

theorem denotes_point (negative : Bool) {whole fraction : List Char} (nonempty : whole ≠ [])
    (ascii : AsciiDigits whole) (asciiFraction : AsciiDigits fraction) :
    Denotes negative (whole ++ '.' :: fraction)
      (decimalValue (whole ++ fraction) * 10 ^ (-(fraction.length : Int))) := by
  have read := read_unsigned_point negative nonempty ascii asciiFraction ends_nil
  rw [List.append_nil] at read
  exact ⟨_, read, rfl, by simp [Numeral.magnitude]⟩

theorem zero_ascii : AsciiDigits ['0'] := by
  intro c member
  rw [List.mem_singleton.mp member]
  decide

theorem leading_zeros (count : Nat) (digits : List Char) :
    decimalValue ('0' :: (zeros count ++ digits)) = decimalValue digits := by
  rw [← List.cons_append, decimal_value_append, zeros, ← List.replicate_succ,
    decimal_value_zeros, Nat.zero_mul, Nat.zero_add]

theorem trailing_zeros (digits : List Char) (count : Nat) :
    decimalValue (digits ++ zeros count) = decimalValue digits * 10 ^ count := by
  rw [decimal_value_append, zeros, decimal_value_zeros, List.length_replicate, Nat.add_zero]

/-- A run of digits of the given value, with a point inside or without one. -/
inductive Positional (text : List Char) (value : ℚ) : Prop
  | whole (present : text ≠ []) (ascii : AsciiDigits text) (same : (decimalValue text : ℚ) = value)
  | point {whole fraction : List Char} (split : text = whole ++ '.' :: fraction)
      (present : whole ≠ []) (ascii : AsciiDigits whole) (places : AsciiDigits fraction)
      (same : (decimalValue (whole ++ fraction) : ℚ) * 10 ^ (-(fraction.length : Int)) = value)

section Positional

variable {d : Digits}

theorem positional_small (ascii : AsciiDigits d.digits) (small : d.power < 0) :
    Positional ('0' :: '.' :: zeros (d.power.natAbs - 1) ++ d.digits) d.value := by
  have place : -((zeros (d.power.natAbs - 1) ++ d.digits).length : Int) =
      d.power - d.digits.length + 1 := by
    simp [zeros]
    omega
  have places := ascii_append (zeros_ascii (d.power.natAbs - 1)) ascii
  refine .point rfl (List.cons_ne_nil '0' []) zero_ascii places ?_
  rw [List.singleton_append, leading_zeros, place]
  rfl

-- No digit stands behind the point: the missing ones in front of it are zeros.
theorem integral_value (large : ¬ d.power < 0) (short : d.digits.length ≤ d.power.toNat + 1) :
    (decimalValue (d.digits ++ zeros (d.power.toNat + 1 - d.digits.length)) : ℚ) = d.value := by
  have place : ((d.power.toNat + 1 - d.digits.length : Nat) : Int) =
      d.power - d.digits.length + 1 := by omega
  rw [trailing_zeros, Digits.value, ← place, zpow_natCast]
  push_cast
  rfl

theorem positional_integral (format : FloatFormat) (nonempty : d.digits ≠ [])
    (ascii : AsciiDigits d.digits) (large : ¬ d.power < 0)
    (short : d.digits.length ≤ d.power.toNat + 1) :
    Positional (if format.fractionalZero then
        d.digits ++ zeros (d.power.toNat + 1 - d.digits.length) ++ ['.', '0']
      else d.digits ++ zeros (d.power.toNat + 1 - d.digits.length)) d.value := by
  have value := integral_value large short
  have whole := ascii_append ascii (zeros_ascii (d.power.toNat + 1 - d.digits.length))
  have some := List.append_ne_nil_of_left_ne_nil nonempty
    (zeros (d.power.toNat + 1 - d.digits.length))
  split
  · refine .point rfl some whole zero_ascii ?_
    have zero : decimalValue ['0'] = 0 := rfl
    rw [decimal_value_append, zero, Nat.add_zero]
    simpa using value
  · exact .whole some whole value

theorem positional_fraction (nonempty : d.digits ≠ []) (ascii : AsciiDigits d.digits)
    (large : ¬ d.power < 0) (long : d.power.toNat + 1 < d.digits.length) :
    Positional (d.digits.take (d.power.toNat + 1) ++ '.' :: d.digits.drop (d.power.toNat + 1))
      d.value := by
  have place : -((d.digits.drop (d.power.toNat + 1)).length : Int) =
      d.power - d.digits.length + 1 := by
    rw [List.length_drop]
    omega
  refine .point rfl (by simp [nonempty]) (fun c member => ascii c (List.mem_of_mem_take member))
    (fun c member => ascii c (List.mem_of_mem_drop member)) ?_
  rw [List.take_append_drop, place]
  rfl

theorem positional_shape (format : FloatFormat) (nonempty : d.digits ≠ [])
    (ascii : AsciiDigits d.digits) : Positional (positionalText format d) d.value := by
  rw [positionalText]
  split
  · next small => exact positional_small ascii small
  · next large =>
    dsimp only
    split
    · next exact =>
      have short : d.digits.length ≤ d.power.toNat + 1 := List.drop_eq_nil_iff.mp exact
      rw [List.take_of_length_le short]
      exact positional_integral format nonempty ascii large short
    · next fraction present =>
      have long : d.power.toNat + 1 < d.digits.length := by
        refine not_le.mp fun short => present ?_
        exact List.drop_eq_nil_iff.mpr short
      have none : zeros (d.power.toNat + 1 - d.digits.length) = [] := by
        rw [Nat.sub_eq_zero_of_le long.le]
        rfl
      rw [none, List.append_nil]
      exact positional_fraction nonempty ascii large long

theorem positional_denotes (negative : Bool) (format : FloatFormat) (nonempty : d.digits ≠ [])
    (ascii : AsciiDigits d.digits) : Denotes negative (positionalText format d) d.value := by
  cases positional_shape format nonempty ascii with
  | whole present digits same =>
      rw [← same]
      exact denotes_whole negative present digits
  | point split present whole places same =>
      rw [← same, split]
      exact denotes_point negative present whole places

end Positional

theorem ends_exponent (power : Int) : EndsDigits (exponentText power) := by
  rintro c ⟨⟩
  decide

theorem scientific_denotes (negative : Bool) {d : Digits} (nonempty : d.digits ≠ [])
    (ascii : AsciiDigits d.digits) : Denotes negative (scientificText d) d.value := by
  rw [scientificText]
  split
  · next first second rest same =>
    rw [same] at ascii
    have read := read_unsigned_point negative (List.cons_ne_nil first [])
      (fun c member => ascii c (by simp [List.mem_singleton.mp member]))
      (fun c member => ascii c (List.mem_cons_of_mem first member)) (ends_exponent d.power)
    rw [read_exponent_text] at read
    refine ⟨_, read, rfl, ?_⟩
    simp only [Numeral.magnitude, Digits.value, same, List.singleton_append]
    congr 2
    simp
    omega
  · next single short =>
    have read := read_unsigned_whole negative nonempty ascii (ends_exponent d.power)
      (by simp [exponentText])
    rw [read_exponent_text] at read
    refine ⟨_, read, rfl, ?_⟩
    have one : d.digits.length = 1 := by
      rcases same : d.digits with _ | ⟨first, _ | ⟨second, rest⟩⟩
      · exact absurd same nonempty
      · rfl
      · exact absurd same (short first second rest)
    simp [Numeral.magnitude, Digits.value, one]

theorem digits_text_denotes (negative : Bool) (format : FloatFormat) {d : Digits}
    (nonempty : d.digits ≠ []) (ascii : AsciiDigits d.digits) :
    Denotes negative (digitsText format d) d.value := by
  rw [digitsText]
  split
  · exact positional_denotes negative format nonempty ascii
  · exact scientific_denotes negative nonempty ascii

theorem digits_text_length (format : FloatFormat) (d : Digits) :
    (digitsText format d).length ≤ d.digits.length + d.power.natAbs + 5 := by
  have exponent := exponent_text_length d.power
  rw [digitsText]
  split
  · rw [positionalText]
    split
    · simp [zeros]
      omega
    · dsimp only
      split
      · split
        · simp [zeros]
          omega
        · simp [zeros]
          omega
      · next fraction _ =>
        simp [zeros]
        omega
  · rw [scientificText]
    split
    · next same =>
      rw [same]
      simp
      omega
    · simp
      omega
/-! Signs, blanks and names -/

/-- Characters that reading neither trims nor skips. -/
def Kept (c : Char) : Prop := isBlank c = false ∧ c ≠ '_'

theorem digit_kept {c : Char} (digit : isAsciiDigit c = true) : Kept c := by
  refine ⟨ascii_digit_solid digit, ?_⟩
  rintro rfl
  exact absurd digit (by decide)

theorem exponent_text_kept (power : Int) : ∀ c ∈ exponentText power, Kept c := by
  intro c member
  have sign : Kept (if power < 0 then '-' else '+') := by
    split <;> exact ⟨by decide, by decide⟩
  have digits : ∀ c ∈ (if (Nat.toDigits 10 power.natAbs).length < 2 then
      '0' :: Nat.toDigits 10 power.natAbs else Nat.toDigits 10 power.natAbs), Kept c := by
    have run := fun c member => digit_kept (to_digits_ascii power.natAbs c member)
    split
    · intro c member
      rcases List.mem_cons.mp member with rfl | later
      · exact ⟨by decide, by decide⟩
      · exact run c later
    · exact run
  rw [exponentText] at member
  rcases List.mem_cons.mp member with rfl | behind
  · exact ⟨by decide, by decide⟩
  · rcases List.mem_cons.mp behind with rfl | later
    · exact sign
    · exact digits c later

/-- Starts with a digit and has no character that reading drops. -/
def Readable (text : List Char) : Prop :=
  (∃ c more, text = c :: more ∧ isAsciiDigit c = true) ∧ ∀ c ∈ text, Kept c

theorem digits_kept {digits : List Char} (ascii : AsciiDigits digits) : ∀ c ∈ digits, Kept c :=
  fun c member => digit_kept (ascii c member)

theorem kept_point {tail : List Char} (kept : ∀ c ∈ tail, Kept c) : ∀ c ∈ '.' :: tail, Kept c := by
  intro c member
  rcases List.mem_cons.mp member with rfl | behind
  · exact ⟨by decide, by decide⟩
  · exact kept c behind

theorem readable_cons {first : Char} {tail : List Char} (digit : isAsciiDigit first = true)
    (kept : ∀ c ∈ tail, Kept c) : Readable (first :: tail) := by
  refine ⟨⟨first, tail, rfl, digit⟩, ?_⟩
  intro c member
  rcases List.mem_cons.mp member with rfl | behind
  · exact digit_kept digit
  · exact kept c behind

theorem readable_append {digits tail : List Char} (nonempty : digits ≠ [])
    (ascii : AsciiDigits digits) (kept : ∀ c ∈ tail, Kept c) : Readable (digits ++ tail) := by
  obtain ⟨first, rest, rfl⟩ := List.exists_cons_of_ne_nil nonempty
  have later : AsciiDigits rest := fun c member => ascii c (List.mem_cons_of_mem first member)
  have behind := List.forall_mem_append.mpr ⟨digits_kept later, kept⟩
  exact readable_cons (ascii first (by simp)) behind

theorem positional_readable (format : FloatFormat) {d : Digits} (nonempty : d.digits ≠ [])
    (ascii : AsciiDigits d.digits) : Readable (positionalText format d) := by
  cases positional_shape format nonempty ascii with
  | whole present digits _ =>
      have bare := readable_append present digits (List.forall_mem_nil Kept)
      rwa [List.append_nil] at bare
  | point split present whole places _ =>
      rw [split]
      exact readable_append present whole (kept_point (digits_kept places))

theorem scientific_readable {d : Digits} (nonempty : d.digits ≠ [])
    (ascii : AsciiDigits d.digits) : Readable (scientificText d) := by
  rw [scientificText]
  split
  · next first second rest same =>
    rw [same] at ascii
    have places : AsciiDigits (second :: rest) :=
      fun c member => ascii c (List.mem_cons_of_mem first member)
    have kept := List.forall_mem_append.mpr
      ⟨kept_point (digits_kept places), exponent_text_kept d.power⟩
    exact readable_cons (ascii first (by simp)) kept
  · exact readable_append nonempty ascii (exponent_text_kept d.power)

theorem digits_text_readable (format : FloatFormat) {d : Digits} (nonempty : d.digits ≠ [])
    (ascii : AsciiDigits d.digits) : Readable (digitsText format d) := by
  rw [digitsText]
  split
  · exact positional_readable format nonempty ascii
  · exact scientific_readable nonempty ascii

/-- A sign in front of a number: it may be left out, and only a minus counts. -/
inductive Sign where
  | bare
  | plus
  | minus
  deriving DecidableEq

namespace Sign

def text : Sign → List Char
  | bare => []
  | plus => ['+']
  | minus => ['-']

def negative : Sign → Bool
  | minus => true
  | _ => false

theorem text_kept (sign : Sign) : ∀ c ∈ sign.text, Kept c := by
  cases sign <;> simp [text, Kept, isBlank]

end Sign

/-- Starts as a number does, with a digit or a point. -/
def Numeric (text : List Char) : Prop :=
  ∃ c more, text = c :: more ∧ (isDecimalDigit c = true ∨ c = '.')

/-- The names of the special quantities start with letters. -/
theorem of_name_numeric (negative : Bool) {text : List Char} (numeric : Numeric text) :
    Quantity.ofName? negative text = (Numeral.readUnsigned? negative text).bind fun n =>
      if n.inRange then some (.number n) else none := by
  obtain ⟨c, more, rfl, digit | rfl⟩ := numeric
  · simp [Quantity.ofName?, Quantity.lowerAscii, digit]
  · have point : isDecimalDigit '.' = false := by decide
    have upper : isAsciiUpper '.' = false := by decide
    simp [Quantity.ofName?, Quantity.lowerAscii, point, upper]

theorem read_sign_text (sign : Sign) {text : List Char} (numeric : Numeric text)
    (kept : ∀ c ∈ text, Kept c) :
    Quantity.read? (sign.text ++ text) = (Numeral.readUnsigned? sign.negative text).bind fun n =>
      if n.inRange then some (.number n) else none := by
  have all := List.forall_mem_append.mpr ⟨sign.text_kept, kept⟩
  have trimmed : trim (sign.text ++ text) = sign.text ++ text :=
    trim_solid ⟨fun c first => (all c (List.mem_of_head? first)).1,
      fun c last => (all c (List.mem_of_getLast? last)).1⟩
  have filtered : (sign.text ++ text).filter (· != '_') = sign.text ++ text :=
    List.filter_eq_self.mpr fun c member => by simp [(all c member).2]
  rw [Quantity.read?, trimmed, filtered, ← of_name_numeric _ numeric]
  cases sign with
  | plus => rfl
  | minus => rfl
  | bare =>
      obtain ⟨c, more, rfl, start⟩ := numeric
      simp only [Sign.text, Sign.negative, List.nil_append]
      split
      · next same =>
        cases same
        exact absurd start (by decide)
      · next same =>
        cases same
        exact absurd start (by decide)
      · rfl

theorem read_with_sign {negative : Bool} {text : List Char} {n : Numeral}
    (read : Numeral.readUnsigned? negative text = some n) (readable : Readable text) :
    Quantity.read? (withSign negative text) = if n.inRange then some (.number n) else none := by
  obtain ⟨⟨c, more, split, digit⟩, kept⟩ := readable
  have numeric : Numeric text := ⟨c, more, split, .inl (is_decimal_of_ascii digit)⟩
  have signed (sign : Sign) (same : sign.negative = negative) :
      Quantity.read? (sign.text ++ text) = if n.inRange then some (.number n) else none := by
    rw [read_sign_text sign numeric kept, same, read]
    rfl
  cases negative with
  | false => exact signed .bare rfl
  | true => exact signed .minus rfl

end SchemaCompiler.Decimal
