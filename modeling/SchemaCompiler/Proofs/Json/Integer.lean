import SchemaCompiler.Json.Reader
import SchemaCompiler.Json.Writer
import SchemaCompiler.Proofs.Text.Digits

/-!
Integers. The text of an integer reads back as it, whatever follows, unless that continues the
number or the integer has more digits than are converted.
-/

namespace SchemaCompiler.Json

open Text Decimal

/-- What may follow a number without continuing it. -/
def EndsNumber (rest : List Char) : Prop :=
  ∀ c, rest.head? = some c →
    isAsciiDigit c = false ∧ c ≠ '.' ∧ c ≠ 'e' ∧ c ≠ 'E'

theorem integer_text_nat (n : Nat) : integerText (n : Int) = Nat.toDigits 10 n := by
  simp [integerText, Int.toString_eq_repr, Int.repr]

theorem integer_text_neg (n : Nat) :
    integerText (-((n + 1 : Nat) : Int)) = '-' :: Nat.toDigits 10 (n + 1) := by
  have negative : (-((n + 1 : Nat) : Int)) = Int.negSucc n := rfl
  rw [negative]
  simp [integerText, Int.toString_eq_repr, Int.repr]

/-- A zero that stands alone, or digits behind another one. -/
inductive WholePart : List Char → Prop
  | zero : WholePart ['0']
  | digits {c : Char} {more : List Char} (leading : c ≠ '0') (ascii : AsciiDigits (c :: more)) :
      WholePart (c :: more)

theorem whole_part_to_digits (n : Nat) : WholePart (Nat.toDigits 10 n) := by
  by_cases zero : n = 0
  · rw [zero]
    exact .zero
  · have ascii := to_digits_ascii n
    have leading := head_to_digits_ne_zero (Nat.pos_of_ne_zero zero)
    obtain ⟨c, more, split⟩ := List.exists_cons_of_ne_nil (Nat.toDigits_ne_nil (n := n) (b := 10))
    rw [split] at ascii leading ⊢
    exact .digits (by simpa using leading) ascii

theorem whole_part_read {whole rest : List Char} (part : WholePart whole)
    (ends : ∀ c, rest.head? = some c → isAsciiDigit c = false) :
    wholeDigits? (whole ++ rest) = some (whole, rest) := by
  cases part with
  | zero => rfl
  | digits leading ascii =>
      obtain ⟨first, behind⟩ := List.forall_mem_cons.mp ascii
      simp [wholeDigits?, leading, first, take_run behind ends]

theorem ends_number_digits {rest : List Char} (ends : EndsNumber rest) :
    ∀ c, rest.head? = some c → isAsciiDigit c = false :=
  fun c first => (ends c first).1

theorem fraction_absent {rest : List Char} (ends : EndsNumber rest) :
    fractionDigits rest = ([], []) := by
  cases rest with
  | nil => rfl
  | cons c more =>
      have point := (ends c rfl).2.1
      unfold fractionDigits
      split
      · next same => exact absurd (List.cons.inj same).1 point
      · rfl

theorem exponent_absent {rest : List Char} (ends : EndsNumber rest) :
    exponentPart? rest = none := by
  cases rest with
  | nil => rfl
  | cons c more =>
      have ⟨_, _, small, capital⟩ := ends c rfl
      simp [exponentPart?, small, capital]

theorem with_sign_append (negative : Bool) (text rest : List Char) :
    withSign negative text ++ rest = withSign negative (text ++ rest) := by
  cases negative <;> rfl

theorem unsigned_integer_read (negative : Bool) (n : Nat) (rest : List Char)
    (ends : EndsNumber rest) (short : digitLength n ≤ maxIntegerDigits) :
    readUnsignedNumber? negative (Nat.toDigits 10 n ++ rest) =
      some (.ok (.integer (if negative then -(n : Int) else n), rest)) := by
  have fits : ¬ maxIntegerDigits < (Nat.toDigits 10 n).length := by
    simpa [digitLength] using short
  have whole := whole_part_read (whole_part_to_digits n) (ends_number_digits ends)
  simp [readUnsignedNumber?, whole, fraction_absent ends, exponent_absent ends, fits,
    decimal_value_to_digits]

/-- A text that starts like a number starts with none of the literal words. -/
theorem literal_absent {c : Char} (digit : isAsciiDigit c = true) (negative : Bool)
    (more : List Char) :
    (literals.find? fun (word, _) => word.isPrefixOf (withSign negative (c :: more))) = none := by
  have apart : ∀ letter ∈ ['n', 't', 'f', 'N', 'I', '-'], (letter == c) = false := by
    intro letter member
    have noDigit : isAsciiDigit letter = false := by
      have none : ['n', 't', 'f', 'N', 'I', '-'].all (fun l => !isAsciiDigit l) = true := rfl
      simpa using List.all_eq_true.mp none letter member
    refine beq_false_of_ne ?_
    rintro rfl
    rw [noDigit] at digit
    cases digit
  simp only [List.mem_cons, List.not_mem_nil, or_false, forall_eq_or_imp, forall_eq] at apart
  obtain ⟨n, t, f, capitalN, capitalI, minus⟩ := apart
  cases negative with
  | false =>
      simp [literals, List.find?, List.isPrefixOf, withSign, n, t, f, capitalN, capitalI, minus]
  | true => simp [literals, List.find?, List.isPrefixOf, withSign, capitalI]

/-- A number is read with its sign. -/
theorem number_read {negative : Bool} {c : Char} {more : List Char} {read : Read Json}
    (digit : isAsciiDigit c = true)
    (number : readUnsignedNumber? negative (c :: more) = some read) :
    readScalar (withSign negative (c :: more)) = read := by
  have found : readNumber? (withSign negative (c :: more)) = some read := by
    cases negative with
    | true => exact number
    | false =>
        simp only [withSign, Bool.false_eq_true, if_false, readNumber?]
        split
        · next same =>
          cases same
          exact absurd digit (by decide)
        · exact number
  rw [readScalar, literal_absent digit, found]
  rfl

theorem integer_text_sign (n : Int) :
    integerText n = withSign (n < 0) (Nat.toDigits 10 n.natAbs) := by
  cases n with
  | ofNat m => exact integer_text_nat m
  | negSucc m =>
      rw [decide_eq_true (Int.negSucc_lt_zero m)]
      exact integer_text_neg m

theorem integer_read (n : Int) (rest : List Char) (ends : EndsNumber rest)
    (short : digitLength n.natAbs ≤ maxIntegerDigits) :
    readScalar (integerText n ++ rest) = .ok (.integer n, rest) := by
  have number := unsigned_integer_read (n < 0) n.natAbs rest ends short
  have same : (if n < 0 then -(n.natAbs : Int) else n.natAbs) = n := by omega
  obtain ⟨c, more, digits⟩ :=
    List.exists_cons_of_ne_nil (Nat.toDigits_ne_nil (n := n.natAbs) (b := 10))
  have digit := to_digits_ascii n.natAbs c (by simp [digits])
  simp only [decide_eq_true_eq, same, digits, List.cons_append] at number
  rw [integer_text_sign, digits, with_sign_append, List.cons_append]
  exact number_read digit number

theorem integer_text_chars (n : Int) : ∀ c ∈ integerText n, c = '-' ∨ isAsciiDigit c = true := by
  intro c member
  cases n with
  | ofNat m =>
      rw [Int.ofNat_eq_natCast, integer_text_nat] at member
      exact Or.inr (to_digits_ascii m c member)
  | negSucc m =>
      have text : integerText (Int.negSucc m) = '-' :: Nat.toDigits 10 (m + 1) :=
        integer_text_neg m
      rw [text] at member
      rcases List.mem_cons.mp member with minus | digit
      · exact Or.inl minus
      · exact Or.inr (to_digits_ascii (m + 1) c digit)

theorem integer_text_head (n : Int) :
    ∃ c more, integerText n = c :: more ∧ (c = '-' ∨ isAsciiDigit c = true) := by
  cases n with
  | ofNat m =>
      obtain ⟨c, more, digits⟩ :=
        List.exists_cons_of_ne_nil (Nat.toDigits_ne_nil (n := m) (b := 10))
      have digit := to_digits_ascii m c (by simp [digits])
      exact ⟨c, more, (integer_text_nat m).trans digits, Or.inr digit⟩
  | negSucc m => exact ⟨'-', _, integer_text_neg m, Or.inl rfl⟩

end SchemaCompiler.Json
