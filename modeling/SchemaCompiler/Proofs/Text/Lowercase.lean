import SchemaCompiler.Proofs.Text.Cutting
import SchemaCompiler.Text.Case

/-!
Lower case and trimmed text. The lower case of a capital is no capital and no blank, so text
that was trimmed and lowered stays as it is under either.
-/

namespace SchemaCompiler.Text

open Tables

/-! The runs of capitals, checked against one another -/

/-- The least and the greatest lower case of a run, and whether every second code point between
them is left out. -/
def lowest (run : CaseRun) : Nat := (run.first + run.offset).toNat

def highest (run : CaseRun) : Nat := (run.last + run.offset).toNat

def sparse (run : CaseRun) : Bool := run.step.beq 2 || run.first.beq run.last

/-- No code point of the run is among those between two others. -/
def missed (low high : Nat) (everySecond : Bool) (run : CaseRun) : Bool :=
  high.blt run.first || run.last.blt low ||
    (everySecond && run.step.beq 2 && ((low + run.first) % 2).beq 1)

/-- Code points that are neither blank, nor lowered in a way of their own, nor no characters. -/
def plainBetween (low high : Nat) : Bool :=
  Nat.blt 0x60 low && high.blt 0x110000 &&
    [(0x85, 0x85), (0xA0, 0xA0), (0x130, 0x130), (0x3A3, 0x3A3), (0x1680, 0x1680),
      (0x2000, 0x205F), (0x3000, 0x3000), (0xD800, 0xDFFF)].all fun (first, last) =>
        high.blt first || Nat.blt last low

theorem capitals_plain : capitals.all (fun run => plainBetween (lowest run) (highest run)) := by
  decide +kernel

-- Pairwise, so that the lower case of one run is checked against every run of capitals.
theorem capitals_missed :
    capitals.all fun run => capitals.all (missed (lowest run) (highest run) (sparse run)) := by
  decide +kernel

/-- What the checks say of the lower case of one code point in a run. -/
theorem run_image {run : CaseRun} (known : run ∈ capitals) {code : Nat}
    (within : run.contains code = true) :
    ∃ image, ((code : Int) + run.offset).toNat = image ∧ lowest run ≤ image ∧
      image ≤ highest run ∧ plainBetween (lowest run) (highest run) = true ∧
      (sparse run = true → image % 2 = lowest run % 2) := by
  have plain := List.all_eq_true.mp capitals_plain run known
  simp only [CaseRun.contains, Bool.and_eq_true, decide_eq_true_eq, beq_iff_eq] at within
  obtain ⟨⟨above, below⟩, inStep⟩ := within
  have start : 0x60 < lowest run := by
    simp only [plainBetween, Bool.and_eq_true, Nat.blt_eq] at plain
    exact plain.1.1
  have shifted : ((code : Int) + run.offset).toNat = lowest run + (code - run.first) := by
    simp only [lowest] at start ⊢
    omega
  refine ⟨_, rfl, by omega, ?_, plain, ?_⟩
  · simp only [highest]
    omega
  · intro gaps
    simp only [sparse, Bool.or_eq_true, Nat.beq_eq] at gaps
    rcases gaps with two | single
    · rw [two] at inStep
      omega
    · have same : code = run.first := by omega
      rw [shifted, same]
      omega

theorem to_nat_of_valid {code : Nat} (valid : code.isValidChar) :
    (Char.ofNat code).toNat = code := by
  rw [Char.ofNat, dif_pos valid]
  exact UInt32.toNat_ofNatLT

theorem plain_character {low high code : Nat} (plain : plainBetween low high = true)
    (above : low ≤ code) (below : code ≤ high) :
    code.isValidChar ∧ 0x60 < code ∧ code ≠ 0x130 ∧ code ≠ 0x3A3 ∧
      isBlank (Char.ofNat code) = false := by
  simp only [plainBetween, Bool.and_eq_true, Bool.or_eq_true, Nat.blt_eq, List.all_cons,
    List.all_nil] at plain
  have valid : code.isValidChar := by
    simp only [Nat.isValidChar]
    omega
  refine ⟨valid, by omega, by omega, by omega, ?_⟩
  have number := to_nat_of_valid valid
  simp only [isBlank, number, Bool.or_eq_false_iff, Bool.and_eq_false_iff, decide_eq_false_iff_not,
    beq_eq_false_iff_ne]
  omega

/-! Characters -/

/-- A character that lowering keeps. -/
def Settled (c : Char) : Prop := lowerChar c = c ∧ c ≠ '\u03a3' ∧ c ≠ '\u0130'

theorem no_capital_lowered {run : CaseRun} (known : run ∈ capitals) {code image : Nat}
    (within : run.contains code = true) (shifted : ((code : Int) + run.offset).toNat = image) :
    capitals.find? (·.contains image) = none := by
  obtain ⟨_, rfl, above, below, _, parity⟩ := run_image known within
  rw [shifted] at above below parity
  apply List.find?_eq_none.mpr
  intro other among inside
  have apart := List.all_eq_true.mp (List.all_eq_true.mp capitals_missed run known) other among
  simp only [missed, Bool.or_eq_true, Bool.and_eq_true, Nat.blt_eq, Nat.beq_eq] at apart
  simp only [CaseRun.contains, Bool.and_eq_true, decide_eq_true_eq, beq_iff_eq] at inside
  rcases apart with (beyond | before) | ⟨⟨gaps, two⟩, odd⟩
  · omega
  · omega
  · have same := parity gaps
    rw [two] at inside
    omega

theorem settled_capital {run : CaseRun} (known : run ∈ capitals) {code : Nat}
    (within : run.contains code = true) :
    Settled (Char.ofNat ((code : Int) + run.offset).toNat) ∧
      isBlank (Char.ofNat ((code : Int) + run.offset).toNat) = false := by
  obtain ⟨image, shifted, above, below, plain, _⟩ := run_image known within
  obtain ⟨valid, beyondCapitals, notDotted, notSigma, solid⟩ := plain_character plain above below
  have number := to_nat_of_valid valid
  have apart (other : Char) (different : image ≠ other.toNat) : Char.ofNat image ≠ other := by
    intro same
    rw [same] at number
    exact different number.symm
  rw [shifted]
  refine ⟨⟨?_, apart _ notSigma, apart _ notDotted⟩, solid⟩
  have notUpper : isAsciiUpper (Char.ofNat image) = false := by
    simp only [isAsciiUpper, Bool.and_eq_false_iff, decide_eq_false_iff_not, Char.le_def,
      UInt32.le_iff_toNat_le]
    right
    change ¬ (Char.ofNat image).toNat ≤ 90
    omega
  simp [lowerChar, number, notUpper, notDotted, no_capital_lowered known within shifted]

theorem ascii_upper_range {c : Char} (upper : isAsciiUpper c = true) :
    65 ≤ c.toNat ∧ c.toNat ≤ 90 := by
  simpa [isAsciiUpper, Char.le_def, UInt32.le_iff_toNat_le] using upper

theorem ascii_lower_range {c : Char} (lower : isAsciiLower c = true) :
    97 ≤ c.toNat ∧ c.toNat ≤ 122 := by
  simpa [isAsciiLower, Char.le_def, UInt32.le_iff_toNat_le] using lower

theorem settled_ascii {c : Char} (ascii : c.toNat < 128) (small : isAsciiUpper c = false) :
    Settled c := by
  refine ⟨by simp [lowerChar, ascii, small], ?_, ?_⟩
  · rintro rfl
    exact absurd ascii (by decide)
  · rintro rfl
    exact absurd ascii (by decide)

theorem settled_ascii_capital {c : Char} (upper : isAsciiUpper c = true) :
    Settled (Char.ofNat (c.toNat + 32)) ∧ isBlank (Char.ofNat (c.toNat + 32)) = false := by
  have range := ascii_upper_range upper
  have valid : (c.toNat + 32).isValidChar := by
    simp only [Nat.isValidChar]
    omega
  have number := to_nat_of_valid valid
  constructor
  · apply settled_ascii
    · omega
    · refine Bool.eq_false_iff.mpr fun again => ?_
      have := ascii_upper_range again
      omega
  · simp only [isBlank, number, Bool.or_eq_false_iff, Bool.and_eq_false_iff,
      decide_eq_false_iff_not, beq_eq_false_iff_ne]
    omega

theorem lower_char_ascii {c : Char} (below : c.toNat < 128) :
    (lowerChar c).toNat < 128 ∧ isAsciiUpper (lowerChar c) = false := by
  by_cases upper : isAsciiUpper c = true
  · have range := ascii_upper_range upper
    have valid : (c.toNat + 32).isValidChar := Or.inl (by omega)
    have lowered : (lowerChar c).toNat = c.toNat + 32 := by
      simp [lowerChar, below, upper, to_nat_of_valid valid]
    refine ⟨by omega, Bool.eq_false_iff.mpr fun again => ?_⟩
    have beyond := ascii_upper_range again
    omega
  · have small := Bool.eq_false_iff.mpr upper
    rw [(settled_ascii below small).1]
    exact ⟨below, small⟩

/-- The lower case of a character is kept by lowering, and it is blank only for a blank. -/
theorem lower_char_settled (c : Char) :
    Settled (lowerChar c) ∧ (isBlank c = false → isBlank (lowerChar c) = false) := by
  by_cases ascii : c.toNat < 128
  · by_cases upper : isAsciiUpper c = true
    · have lowered : lowerChar c = Char.ofNat (c.toNat + 32) := by simp [lowerChar, ascii, upper]
      have image := settled_ascii_capital upper
      rw [lowered]
      exact ⟨image.1, fun _ => image.2⟩
    · have small := Bool.eq_false_iff.mpr upper
      have kept := settled_ascii ascii small
      rw [kept.1]
      exact ⟨kept, id⟩
  · by_cases dotted : c.toNat = 0x130
    · have lowered : lowerChar c = 'i' := by simp [lowerChar, dotted]
      rw [lowered]
      exact ⟨settled_ascii (by decide) (by decide), fun _ => by decide⟩
    · cases found : capitals.find? (·.contains c.toNat) with
      | some run =>
          have lowered : lowerChar c = Char.ofNat ((c.toNat : Int) + run.offset).toNat := by
            simp [lowerChar, ascii, dotted, found]
          have within := List.find?_some found
          have image := settled_capital (List.mem_of_find?_eq_some found) within
          rw [lowered]
          exact ⟨image.1, fun _ => image.2⟩
      | none =>
          have lowered : lowerChar c = c := by simp [lowerChar, ascii, dotted, found]
          rw [lowered]
          refine ⟨⟨lowered, ?_, ?_⟩, id⟩
          · rintro rfl
            exact absurd found (by decide)
          · rintro rfl
            exact absurd dotted (by decide)

/-! Text -/

/-- The pieces that characters are lowered to. -/
theorem lower_from_cons (inWord : Bool) (c : Char) (rest : List Char) :
    ∃ piece after, lowerFrom inWord (c :: rest) = piece ++ lowerFrom after rest ∧
      piece ≠ [] ∧ (∀ d ∈ piece, Settled d) ∧
      (isBlank c = false → ∀ d ∈ piece, isBlank d = false) := by
  rw [lowerFrom]
  have single (d : Char) (settled : Settled d) (solid : isBlank c = false → isBlank d = false)
      (after : Bool) : ∃ piece next, d :: lowerFrom after rest = piece ++ lowerFrom next rest ∧
        piece ≠ [] ∧ (∀ d ∈ piece, Settled d) ∧
        (isBlank c = false → ∀ d ∈ piece, isBlank d = false) :=
    ⟨[d], after, rfl, by simp, by simpa using settled, by simpa using solid⟩
  split
  · split
    · exact single _ ⟨by decide, by decide, by decide⟩ (fun _ => by decide) _
    · exact single _ ⟨by decide, by decide, by decide⟩ (fun _ => by decide) _
  · split
    · refine ⟨['i', '\u0307'], _, rfl, by simp, ?_, ?_⟩
      · simp only [List.mem_cons, List.not_mem_nil, or_false]
        rintro d (rfl | rfl)
        · exact settled_ascii (by decide) (by decide)
        · exact ⟨by decide, by decide, by decide⟩
      · intro _ d member
        simp only [List.mem_cons, List.not_mem_nil, or_false] at member
        rcases member with rfl | rfl <;> decide
    · exact single _ (lower_char_settled c).1 (lower_char_settled c).2 _

theorem lower_from_settled (inWord : Bool) (text : List Char) :
    ∀ d ∈ lowerFrom inWord text, Settled d := by
  induction text generalizing inWord with
  | nil => simp [lowerFrom]
  | cons c rest ih =>
      obtain ⟨piece, after, split, _, settled, _⟩ := lower_from_cons inWord c rest
      intro d member
      rw [split, List.mem_append] at member
      rcases member with front | back
      · exact settled d front
      · exact ih after d back

theorem lower_from_kept (inWord : Bool) (text : List Char) (settled : ∀ c ∈ text, Settled c) :
    lowerFrom inWord text = text := by
  induction text generalizing inWord with
  | nil => rfl
  | cons c rest ih =>
      obtain ⟨lowered, notSigma, notDotted⟩ := settled c (by simp)
      have tail := fun after => ih after (fun d member => settled d (by simp [member]))
      simp [lowerFrom, notSigma, notDotted, lowered, tail]

theorem lower_idempotent (first second : Bool) (text : List Char) :
    lowerFrom second (lowerFrom first text) = lowerFrom first text :=
  lower_from_kept second _ (lower_from_settled first text)

/-- ASCII text is lowered character by character. -/
theorem lower_from_ascii (inWord : Bool) {text : List Char} (ascii : ∀ c ∈ text, c.toNat < 128) :
    lowerFrom inWord text = text.map lowerChar := by
  induction text generalizing inWord with
  | nil => rfl
  | cons c rest ih =>
      obtain ⟨below, later⟩ := List.forall_mem_cons.mp ascii
      have apart (d : Char) (beyond : 128 ≤ d.toNat) : c ≠ d := by
        rintro rfl
        omega
      have notSigma := apart '\u03a3' (by decide)
      have notDotted := apart '\u0130' (by decide)
      simp [lowerFrom, notSigma, notDotted, ih _ later]

/-! Trimmed text -/

theorem lower_from_ne_nil (inWord : Bool) {text : List Char} (some : text ≠ []) :
    lowerFrom inWord text ≠ [] := by
  cases text with
  | nil => exact absurd rfl some
  | cons c rest =>
      obtain ⟨piece, after, split, present, _⟩ := lower_from_cons inWord c rest
      rw [split]
      simp [present]

theorem solid_lower (inWord : Bool) {text : List Char} (solid : Solid text) :
    Solid (lowerFrom inWord text) := by
  constructor
  · intro d first
    cases text with
    | nil => cases first
    | cons c rest =>
        obtain ⟨piece, after, split, present, _, kept⟩ := lower_from_cons inWord c rest
        obtain ⟨start, more, rfl⟩ := List.exists_cons_of_ne_nil present
        rw [split] at first
        cases first
        exact kept (solid.1 c rfl) d (by simp)
  · -- Only the end of the text matters here, so what is known of its start must not be carried
    -- along the induction.
    have back := solid.2
    clear solid
    intro d last
    induction text generalizing inWord with
    | nil => cases last
    | cons c rest ih =>
        obtain ⟨piece, after, split, present, _, kept⟩ := lower_from_cons inWord c rest
        rw [split] at last
        cases rest with
        | nil =>
            rw [lowerFrom, List.append_nil] at last
            exact kept (back c rfl) d (List.mem_of_getLast? last)
        | cons next more =>
            rw [List.getLast?_append] at last
            cases tail : (lowerFrom after (next :: more)).getLast? with
            | none =>
                have empty := List.getLast?_eq_none_iff.mp tail
                exact absurd empty (lower_from_ne_nil after (by simp))
            | some e =>
                rw [tail] at last
                cases last
                exact ih after (fun e ending => back e (by simpa using ending)) tail

/-- What was trimmed and lowered is kept by trimming and lowering. -/
theorem lower_trim_kept (text : List Char) :
    lowerFrom false (trim (lowerFrom false (trim text))) = lowerFrom false (trim text) := by
  rw [trim_solid (solid_lower false (solid_trim text)), lower_idempotent]

end SchemaCompiler.Text
