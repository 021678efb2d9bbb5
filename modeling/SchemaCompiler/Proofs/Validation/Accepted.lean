import SchemaCompiler.Proofs.Outcome
import SchemaCompiler.Proofs.Text.WideText
import SchemaCompiler.Proofs.Validation.Answer
import SchemaCompiler.Validation.Payload

/-!
Values that extraction accepts: which JSON value they come from and what is made of it.
-/

namespace SchemaCompiler.Validation

open Decimal Outcome

variable {f : Field} {value : Json} {v : Value}

/-! Conversions -/

theorem encodable_ok_iff (wide : WideText) (text : String) :
    encodable wide = .ok text ↔ wide = .plain text := by
  cases wide <;> simp [encodable]

theorem to_integer_ok {signed : Bool} {n : Int} (converted : toInteger signed value = .ok n) :
    value = .integer n := by
  cases value with
  | integer m =>
      simp only [toInteger] at converted
      generalize (if signed = true then IntegerRange.signed 64 else .unsigned 64) = range
        at converted
      split at converted
      · cases converted
        rfl
      · cases converted
  | null => cases converted
  | bool b => cases converted
  | float x => cases converted
  | string s => cases converted
  | array items => cases converted
  | object members => cases converted

theorem integer_of_ok {signed : Bool} {n : Int} (converted : integerOf f signed value = .ok n) :
    value = .integer n := by
  rw [integerOf] at converted
  split at converted
  · next found =>
    cases converted
    exact to_integer_ok found
  · cases converted

theorem contains_iff (range : IntegerRange) (n : Int) :
    range.contains n = true ↔ range.minimum ≤ n ∧ n ≤ range.maximum := by
  simp [IntegerRange.contains]

theorem narrow_to_ok {range : IntegerRange} {n m : Int} (narrowed : narrowTo f range n = .ok m) :
    m = n ∧ range.contains n = true := by
  simp only [narrowTo, narrow] at narrowed
  split at narrowed
  · next found =>
    cases narrowed
    split at found
    · next within =>
      cases found
      exact ⟨rfl, within⟩
    · cases found
  · cases narrowed

/-- A byte is the number it was given as. -/
theorem byte_of_ok {item : Json} {b : UInt8} (read : byteOf f item = .ok b) :
    item = .integer b.toNat := by
  simp only [byteOf, bind_ok_iff] at read
  obtain ⟨n, converted, m, narrowed, same⟩ := read
  obtain ⟨rfl, within⟩ := narrow_to_ok narrowed
  simp only [pure, Except.pure, Except.ok.injEq] at same
  obtain ⟨low, high⟩ := (contains_iff _ _).mp within
  change 0 ≤ m at low
  change m ≤ 255 at high
  -- Within the range of a byte nothing is lost in taking one.
  have back : (UInt8.ofNat m.toNat).toNat = m.toNat := Nat.mod_eq_of_lt (by omega)
  rw [integer_of_ok converted, ← same, back, Int.toNat_of_nonneg low]

theorem bytes_of_ok {items : List Json} {bytes : List UInt8}
    (read : items.mapM (byteOf f) = .ok bytes) :
    items = bytes.map fun b => .integer b.toNat := by
  induction items generalizing bytes with
  | nil =>
      cases read
      rfl
  | cons item rest ih =>
      simp only [List.mapM_cons, bind_ok_iff] at read
      obtain ⟨b, first, more, others, same⟩ := read
      cases same
      rw [List.map_cons, byte_of_ok first, ih others]

theorem to_float_again {x : FloatValue} (converted : toFloat value = .ok x) :
    toFloat (.float x) = .ok x := by
  obtain ⟨negative, mantissa, exponent, rfl⟩ := to_float_finite converted
  rfl

theorem single_of_ok_iff (f : Field) (x narrowed : FloatValue) :
    singleOf f x = .ok narrowed ↔ x.toSingle? = some narrowed := by
  rw [singleOf, ← to_single_ok_iff]
  cases toSingle x with
  | ok y => simp
  | error e => simp [reject]

/-! Values by kind of datatype -/

theorem extract_ok_iff [Pattern.CharacterNames] (f : Field) (value : Json) (typed : TypedValue) :
    f.extract value = .ok typed ↔ f.checkConsistency = .ok () ∧
      ∃ v, extractValue f value = .ok v ∧ typed = ⟨f.datatype, v⟩ := by
  rw [Field.extract]
  cases f.checkConsistency with
  | error e => simp [design]
  | ok done => simp only [map_ok_iff, true_and, eq_comm (a := typed)]

theorem text_accepted [Pattern.CharacterNames] (accepted : extractText f value = .ok v) :
    ∃ s : String, value = .string s ∧ v = .text s := by
  simp only [extractText, bind_ok_iff, text_of_ok_iff, encodable_ok_iff] at accepted
  obtain ⟨_, rfl, _, _, text, rfl, _, _, _, _, same⟩ := accepted
  cases same
  exact ⟨text, rfl, rfl⟩

theorem bytes_accepted (accepted : extractBytes f value = .ok v) :
    ∃ bytes : List UInt8, value = .array (bytes.map fun b => .integer b.toNat) ∧
      v = .bytes bytes := by
  unfold extractBytes at accepted
  split at accepted
  · simp only [bind_ok_iff] at accepted
    obtain ⟨bytes, read, _, _, same⟩ := accepted
    cases same
    exact ⟨bytes, congrArg Json.array (bytes_of_ok read), rfl⟩
  · cases accepted

theorem integer_accepted {range : IntegerRange} (accepted : extractInteger f range value = .ok v) :
    ∃ n, value = .integer n ∧ v = .integer n := by
  simp only [extractInteger, bind_ok_iff] at accepted
  obtain ⟨n, converted, m, narrowed, _, _, same⟩ := accepted
  cases same
  obtain ⟨rfl, _⟩ := narrow_to_ok narrowed
  exact ⟨m, integer_of_ok converted, rfl⟩

theorem bit_accepted (accepted : extractBit f value = .ok v) :
    ∃ n, value = .integer n ∧ v = .integer n := by
  simp only [extractBit, bind_ok_iff] at accepted
  obtain ⟨n, converted, passed⟩ := accepted
  split at passed
  · cases passed
    exact ⟨n, integer_of_ok converted, rfl⟩
  · cases passed

theorem index_accepted (accepted : extractIndex f value = .ok v) :
    ∃ n, value = .integer n ∧ v = .integer n := by
  simp only [extractIndex, bind_ok_iff] at accepted
  obtain ⟨n, converted, m, narrowed, passed⟩ := accepted
  obtain ⟨rfl, _⟩ := narrow_to_ok narrowed
  split at passed
  · cases passed
  · split at passed
    · cases passed
    · cases passed
      exact ⟨m, integer_of_ok converted, rfl⟩

theorem double_accepted_iff (f : Field) (value : Json) (v : Value) :
    extractDouble f value = .ok v ↔
      ∃ x, toFloat value = .ok x ∧ checkDigits f (shortestText x) = .ok () ∧ v = .float x := by
  simp only [extractDouble, bind_ok_iff, float_of_ok_iff, pure, Except.pure, Except.ok.injEq]
  constructor
  · rintro ⟨x, converted, _, checked, rfl⟩
    exact ⟨x, converted, checked, rfl⟩
  · rintro ⟨x, converted, checked, rfl⟩
    exact ⟨x, converted, _, checked, rfl⟩

theorem single_accepted_iff (f : Field) (value : Json) (v : Value) :
    extractSingle f value = .ok v ↔
      ∃ x y text, toFloat value = .ok x ∧ x.toSingle? = some y ∧ singleText y = .ok text ∧
        checkDigits f text = .ok () ∧ v = .float y := by
  simp only [extractSingle, bind_ok_iff, float_of_ok_iff, single_of_ok_iff]
  constructor
  · rintro ⟨x, converted, y, narrowed, passed⟩
    split at passed
    · cases passed
    · next text written =>
      obtain ⟨_, checked, same⟩ := (bind_ok_iff _ _ _).mp passed
      cases same
      exact ⟨x, y, text, converted, narrowed, written, checked, rfl⟩
  · rintro ⟨x, y, text, converted, narrowed, written, checked, rfl⟩
    refine ⟨x, converted, y, narrowed, ?_⟩
    rw [written]
    exact (bind_ok_iff _ _ _).mpr ⟨_, checked, rfl⟩

/-- Only text of characters alone is looked for among the members. -/
theorem member_accepted_iff (f : Field) (value : Json) (v : Value) :
    extractMember f value = .ok v ↔
      ∃ (s : String) (members : LabelSet), value = .string s ∧ f.members = some members ∧
        members.contains (Text.lower s) = true ∧ v = .text (Text.lower s) := by
  simp only [extractMember, bind_ok_iff, text_of_ok_iff]
  constructor
  · rintro ⟨wide, rfl, passed⟩
    split at passed
    · cases passed
    · next members listed =>
      split at passed
      · next contained =>
        cases passed
        cases wide with
        | plain s =>
            rw [WideText.shown_plain] at contained ⊢
            exact ⟨s, members, rfl, listed, contained, rfl⟩
        | broken text => cases contained
      · cases passed
  · rintro ⟨s, members, rfl, listed, contained, rfl⟩
    refine ⟨s, rfl, ?_⟩
    rw [listed, WideText.shown_plain]
    exact if_pos contained

end SchemaCompiler.Validation
