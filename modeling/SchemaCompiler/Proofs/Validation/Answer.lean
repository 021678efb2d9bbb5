import SchemaCompiler.Proofs.Decimal.SingleText
import SchemaCompiler.Proofs.Outcome
import SchemaCompiler.Validation.Payload

/-!
Which payloads are answered: with a value, or with a violation that names the field at fault.
Conversions answer by turning what they cannot convert into violations. Those that do not are the
integer beyond every double, the single whose text rounds up beyond every single, and text that
has no bytes because a half of a pair stands in it alone.
-/

namespace SchemaCompiler.Validation

open Decimal Outcome

variable {α β : Type}

/-- A value, or a violation of the field's design. -/
def Answers (f : Field) (outcome : Check α) : Prop :=
  (∃ a, outcome = .ok a) ∨
    ∃ violation, outcome = .error (.invalid (.value f.title f.datatype violation))

/-- Consistent, with a regex that can be read. -/
structure Usable [Pattern.CharacterNames] (f : Field) : Prop where
  consistent : f.checkConsistency = .ok ()
  readable : ∀ regex, f.regex = some regex → ∃ node, Pattern.read regex.toList = .ok node

theorem answers_ok (f : Field) (a : α) : Answers f (.ok a : Check α) := Or.inl ⟨a, rfl⟩

theorem answers_reject (f : Field) (violation : Violation) :
    Answers f (reject f violation : Check α) := Or.inr ⟨violation, rfl⟩

/-- One step after the other: both have to answer. -/
theorem answers_bind {f : Field} {x : Check α} {k : α → Check β} (first : Answers f x)
    (next : ∀ a, x = .ok a → Answers f (k a)) : Answers f (x >>= k) := by
  rcases first with ⟨a, same⟩ | ⟨violation, same⟩
  · rw [same]
    exact next a same
  · rw [same]
    exact Or.inr ⟨violation, rfl⟩

theorem answers_map {f : Field} {x : Check α} (g : α → β) :
    Answers f (x.map g) ↔ Answers f x := by
  cases x with
  | ok a => simp [Answers, Except.map]
  | error e => simp [Answers, Except.map]

theorem answers_mapM {f : Field} {step : α → Check β} (each : ∀ a, Answers f (step a))
    (items : List α) : Answers f (items.mapM step) := by
  induction items with
  | nil => exact answers_ok f []
  | cons a rest ih =>
      rw [List.mapM_cons]
      exact answers_bind (each a) fun b _ => answers_bind ih fun more _ => answers_ok f (b :: more)

/-- Values, or the reason why the payload is refused. -/
def Decides (outcome : Check α) : Prop :=
  (∃ a, outcome = .ok a) ∨ ∃ e, outcome = .error (.invalid e)

theorem decides_map {outcome : Check α} (g : α → β) :
    Decides (outcome.map g) ↔ Decides outcome := by
  cases outcome with
  | ok a => simp [Decides, Except.map]
  | error e => simp [Decides, Except.map]

/-! Conversions and checks -/

theorem integer_answers (f : Field) (signed : Bool) (value : Json) :
    Answers f (integerOf f signed value) := by
  rw [integerOf]
  split
  · exact answers_ok f _
  · exact answers_reject f _

theorem narrow_answers (f : Field) (range : IntegerRange) (n : Int) :
    Answers f (narrowTo f range n) := by
  rw [narrowTo]
  split
  · exact answers_ok f _
  · exact answers_reject f _

theorem text_answers (f : Field) (value : Json) : Answers f (textOf f value) := by
  unfold textOf
  split
  · exact answers_ok f _
  · exact answers_reject f _

theorem text_of_ok_iff (f : Field) (value : Json) (text : WideText) :
    textOf f value = .ok text ↔ value = .string text := by
  cases value <;> simp [textOf, reject]

theorem size_answers (f : Field) (size : Nat) : Answers f (checkSize f size) := by
  rw [checkSize]
  split
  · split
    · exact answers_reject f _
    · exact answers_ok f _
  · exact answers_ok f _

theorem bytes_answers (f : Field) (label : String) (size : Nat) :
    Answers f (checkBytes f label size) := by
  rw [checkBytes]
  split
  · split
    · exact answers_reject f _
    · exact answers_ok f _
  · exact answers_ok f _

theorem digits_answers (f : Field) (text : List Char) : Answers f (checkDigits f text) := by
  rw [checkDigits]
  generalize (digitSplit? text).getD (0, 0) = parts
  obtain ⟨whole, places⟩ := parts
  refine answers_bind (size_answers f _) fun _ _ => ?_
  split
  · split
    · exact answers_reject f _
    · exact answers_ok f _
  · exact answers_ok f _

theorem pattern_answers [Pattern.CharacterNames] {f : Field} (usable : Usable f) (text : String) :
    Answers f (checkPattern f text) := by
  rw [checkPattern]
  split
  · exact answers_ok f _
  · next regex present =>
    obtain ⟨node, read⟩ := usable.readable regex present
    simp only [Pattern.fullMatch, read, Except.map]
    split
    · exact answers_ok f _
    · exact answers_reject f _
    all_goals
      next failed => cases failed

theorem byte_answers (f : Field) (item : Json) : Answers f (byteOf f item) :=
  answers_bind (integer_answers f false item) fun n _ =>
    answers_bind (narrow_answers f _ n) fun _ _ => answers_ok f _

/-! Floating point conversions -/

/-- An integer that no finite double is nearest to. -/
def BeyondDoubles (value : Json) : Prop :=
  ∃ n : Int, value = .integer n ∧ doubleLimit ≤ n.natAbs

/-- A number whose nearest single is above the limit of its text. -/
def BeyondSingleTexts (value : Json) : Prop :=
  ∃ x narrowed, toFloat value = .ok x ∧ x.toSingle? = some narrowed ∧
    singleLimit < narrowed.magnitude

/-- Not beyond the limit, if there is one. -/
def Within (limit : Option Int) (size : Nat) : Prop := ∀ bound, limit = some bound → size ≤ bound

/-- Text with a half of a pair that the field is not too short for. -/
def Unencodable (f : Field) (value : Json) : Prop :=
  ∃ text, value = .string (.broken text) ∧ Within f.characters text.points.length

/-- The values for which extraction fails in a way of its own. -/
def Escapes (f : Field) (value : Json) : Prop :=
  ((f.datatype = .float64 ∨ f.datatype = .float32) ∧ BeyondDoubles value) ∨
    (f.datatype = .float32 ∧ BeyondSingleTexts value) ∨
    (f.datatype = .string ∧ Unencodable f value)

theorem to_float_too_large_iff (value : Json) :
    toFloat value = .error .tooLargeForDouble ↔ BeyondDoubles value := by
  cases value with
  | integer n =>
      simp only [toFloat, BeyondDoubles, Json.integer.injEq, exists_eq_left', ← of_int_none_iff]
      cases FloatValue.ofInt? n with
      | none => simp
      | some x => simp
  | float x =>
      simp only [toFloat]
      split <;> simp [BeyondDoubles]
  | null => simp [toFloat, BeyondDoubles]
  | bool b => simp [toFloat, BeyondDoubles]
  | string s => simp [toFloat, BeyondDoubles]
  | array items => simp [toFloat, BeyondDoubles]
  | object members => simp [toFloat, BeyondDoubles]

theorem to_float_finite {value : Json} {x : FloatValue} (converted : toFloat value = .ok x) :
    ∃ negative mantissa exponent, x = .finite negative mantissa exponent := by
  unfold toFloat at converted
  split at converted
  · next n =>
    split at converted
    · next nearest =>
      cases converted
      obtain ⟨parts, _, same⟩ := Option.map_eq_some_iff.mp nearest
      exact ⟨_, _, _, same.symm⟩
    · cases converted
  · next y =>
    split at converted
    · next finite =>
      cases converted
      cases x with
      | finite negative mantissa exponent => exact ⟨negative, mantissa, exponent, rfl⟩
      | infinite negative => cases finite
      | notANumber => cases finite
    · cases converted
  · cases converted

theorem float_answers_iff (f : Field) (value : Json) :
    Answers f (floatOf f value) ↔ ¬ BeyondDoubles value := by
  rw [floatOf, ← to_float_too_large_iff]
  split
  · next x same => simp [answers_ok, same]
  · next same => simp [answers_reject, same]
  · next same => simp [Answers, same]

theorem double_answers_iff (f : Field) (value : Json) :
    Answers f (extractDouble f value) ↔ ¬ BeyondDoubles value := by
  rw [← float_answers_iff f, extractDouble]
  cases converted : floatOf f value with
  | ok x =>
      refine iff_of_true ?_ (answers_ok f x)
      refine answers_bind (answers_ok f x) fun x _ => ?_
      exact answers_bind (digits_answers f _) fun _ _ => answers_ok f _
  | error e => simp [Answers, bind, Except.bind]

theorem float_of_ok_iff (f : Field) (value : Json) (x : FloatValue) :
    floatOf f value = .ok x ↔ toFloat value = .ok x := by
  rw [floatOf]
  split <;> simp_all [reject]

/-- What is narrowed to a single is refused, or its text is found exactly up to the limit. -/
theorem finite_single_answers_iff {f : Field} {value : Json} {negative : Bool} {mantissa : Nat}
    {exponent : Int} (converted : floatOf f value = .ok (.finite negative mantissa exponent)) :
    Answers f (extractSingle f value) ↔
      ¬ ∃ narrowed, (FloatValue.finite negative mantissa exponent).toSingle? = some narrowed ∧
        singleLimit < narrowed.magnitude := by
  rw [extractSingle, converted]
  cases narrowed : (FloatValue.finite negative mantissa exponent).toSingle? with
  | none =>
      refine iff_of_true ?_ (by simp)
      have refused : singleOf f (.finite negative mantissa exponent) =
          reject f (.width (.single (.finite negative mantissa exponent))) := by
        simp [singleOf, toSingle, narrowed]
      simp only [bind, Except.bind, refused]
      exact answers_reject f _
  | some y =>
      obtain ⟨m, e, rfl, bounded⟩ := to_single_finite narrowed
      have passes : singleOf f (.finite negative mantissa exponent) =
          .ok (.finite negative m e) := by
        simp [singleOf, toSingle, narrowed]
      have fails := single_text_fails_iff negative bounded
      simp only [bind, Except.bind, passes, Option.some.injEq, exists_eq_left',
        FloatValue.magnitude, ← fails]
      cases text : singleText (.finite negative m e) with
      | error failed => simp [Answers]
      | ok digits =>
          refine iff_of_true ?_ (by simp)
          exact answers_bind (digits_answers f digits) fun _ _ => answers_ok f _

theorem single_extract_answers_iff (f : Field) (value : Json) :
    Answers f (extractSingle f value) ↔ ¬ BeyondDoubles value ∧ ¬ BeyondSingleTexts value := by
  rw [← float_answers_iff f]
  cases converted : floatOf f value with
  | error e =>
      have none : ¬ BeyondSingleTexts value := by
        rintro ⟨x, _, exact, _⟩
        rw [← float_of_ok_iff f, converted] at exact
        cases exact
      simp [extractSingle, converted, Answers, bind, Except.bind, none]
  | ok x =>
      have exact := (float_of_ok_iff f value x).mp converted
      obtain ⟨negative, mantissa, exponent, rfl⟩ := to_float_finite exact
      rw [and_iff_right (answers_ok f _), finite_single_answers_iff converted]
      simp [BeyondSingleTexts, exact]

/-! Fields -/

theorem bytes_extract_answers (f : Field) (value : Json) : Answers f (extractBytes f value) := by
  unfold extractBytes
  split
  · exact answers_bind (answers_mapM (byte_answers f) _) fun bytes _ =>
      answers_bind (bytes_answers f "Bytestring" _) fun _ _ => answers_ok f _
  · exact answers_reject f _

theorem integer_extract_answers (f : Field) (range : IntegerRange) (value : Json) :
    Answers f (extractInteger f range value) :=
  answers_bind (integer_answers f _ value) fun n _ =>
    answers_bind (narrow_answers f range n) fun _ _ =>
      answers_bind (digits_answers f _) fun _ _ => answers_ok f _

theorem bit_extract_answers (f : Field) (value : Json) : Answers f (extractBit f value) := by
  refine answers_bind (integer_answers f false value) fun n _ => ?_
  split
  · exact answers_ok f _
  · exact answers_reject f _

theorem index_extract_answers {f : Field} (labelled : f.labels.isSome) (value : Json) :
    Answers f (extractIndex f value) := by
  refine answers_bind (integer_answers f false value) fun n _ =>
    answers_bind (narrow_answers f _ n) fun n _ => ?_
  split
  · next none =>
    rw [none] at labelled
    cases labelled
  · split
    · exact answers_reject f _
    · exact answers_ok f _

theorem member_extract_answers {f : Field} (listed : f.members.isSome) (value : Json) :
    Answers f (extractMember f value) := by
  refine answers_bind (text_answers f value) fun text _ => ?_
  dsimp only
  split
  · next none =>
    rw [none] at listed
    cases listed
  · split
    · exact answers_ok f _
    · exact answers_reject f _

-- Every other datatype answers whatever the value is.
theorem not_escapes {f : Field}
    (other : f.datatype ≠ .float64 ∧ f.datatype ≠ .float32 ∧ f.datatype ≠ .string)
    (value : Json) : ¬ Escapes f value := by
  simp [Escapes, other]

section Names

variable [Pattern.CharacterNames]

/-- Text is measured before its bytes are asked for. -/
theorem broken_extract {f : Field} {value : Json} (broken : Unencodable f value) :
    extractText f value = .error .unencodable := by
  obtain ⟨text, rfl, short⟩ := broken
  have sized : checkSize f text.points.length = .ok () := by
    rw [checkSize]
    split
    · next limit present => rw [if_neg (not_lt.mpr (short limit present))]
    · rfl
  simp [extractText, textOf, encodable, WideText.length, sized, bind, Except.bind]

theorem text_extract_answers_iff {f : Field} (usable : Usable f) (value : Json) :
    Answers f (extractText f value) ↔ ¬ Unencodable f value := by
  constructor
  · intro answers broken
    simp [broken_extract broken, Answers] at answers
  · intro whole
    refine answers_bind (text_answers f value) fun text isText => ?_
    refine answers_bind (size_answers f _) fun _ fits => ?_
    cases text with
    | plain text =>
        exact answers_bind (answers_ok f text) fun text _ =>
          answers_bind (bytes_answers f "Field" _) fun _ _ =>
            answers_bind (pattern_answers usable text) fun _ _ => answers_ok f _
    | broken text =>
        refine absurd ⟨text, (text_of_ok_iff f value _).mp isText, fun limit present => ?_⟩ whole
        by_contra long
        rw [checkSize, present] at fits
        simp [WideText.length, not_le.mp long, reject] at fits

/-- One case for each datatype. -/
theorem extract_value_answers_iff {f : Field} (usable : Usable f) (value : Json) :
    Answers f (extractValue f value) ↔ ¬ Escapes f value := by
  obtain ⟨enums, sets⟩ := (f.checkConsistency_eq_ok_iff).mp usable.consistent
  have integers (range : IntegerRange)
      (other : f.datatype ≠ .float64 ∧ f.datatype ≠ .float32 ∧ f.datatype ≠ .string) :
      Answers f (extractInteger f range value) ↔ ¬ Escapes f value :=
    iff_of_true (integer_extract_answers f range value) (not_escapes other value)
  unfold extractValue
  cases kind : f.datatype with
  | string =>
      rw [text_extract_answers_iff usable]
      simp [Escapes, kind]
  | byteString =>
      exact iff_of_true (bytes_extract_answers f value) (not_escapes (by simp [kind]) value)
  | json =>
      refine iff_of_true ?_ (not_escapes (by simp [kind]) value)
      dsimp only
      split
      · exact answers_ok f _
      · exact answers_reject f _
  | signed64 => exact integers _ (by simp [kind])
  | unsigned64 => exact integers _ (by simp [kind])
  | signed32 => exact integers _ (by simp [kind])
  | unsigned32 => exact integers _ (by simp [kind])
  | signed16 => exact integers _ (by simp [kind])
  | unsigned16 => exact integers _ (by simp [kind])
  | byte => exact integers _ (by simp [kind])
  | float64 =>
      rw [double_answers_iff]
      simp [Escapes, kind]
  | float32 =>
      rw [single_extract_answers_iff]
      simp [Escapes, kind]
  | boolean =>
      refine iff_of_true ?_ (not_escapes (by simp [kind]) value)
      dsimp only
      split
      · exact answers_ok f _
      · exact answers_reject f _
  | bit =>
      exact iff_of_true (bit_extract_answers f value) (not_escapes (by simp [kind]) value)
  | enum =>
      exact iff_of_true (index_extract_answers (enums.mp kind) value)
        (not_escapes (by simp [kind]) value)
  | set =>
      exact iff_of_true (member_extract_answers (sets.mp kind) value)
        (not_escapes (by simp [kind]) value)

theorem extract_answers_iff {f : Field} (usable : Usable f) (value : Json) :
    Answers f (f.extract value) ↔ ¬ Escapes f value := by
  rw [Field.extract, usable.consistent, ← extract_value_answers_iff usable]
  exact answers_map _

theorem extract_beyond_doubles {f : Field} (usable : Usable f) {value : Json}
    (kind : f.datatype = .float64 ∨ f.datatype = .float32) (beyond : BeyondDoubles value) :
    f.extract value = .error .tooLargeForDouble := by
  rw [← to_float_too_large_iff] at beyond
  rcases kind with kind | kind
  · simp [Field.extract, usable.consistent, extractValue, kind, extractDouble, floatOf, beyond,
      bind, Except.bind, Except.map]
  · simp [Field.extract, usable.consistent, extractValue, kind, extractSingle, floatOf, beyond,
      bind, Except.bind, Except.map]

/-- How extraction fails for the values that escape. -/
theorem extract_escapes {f : Field} (usable : Usable f) {value : Json}
    (escapes : Escapes f value) :
    f.extract value = .error .tooLargeForDouble ∨
      (∃ x, f.extract value = .error (.tooLargeForSingle x)) ∨
      (f.extract value = .error .unencodable ∧ Unencodable f value) := by
  rcases escapes with
    ⟨kind, beyond⟩ | ⟨kind, x, narrowed, converted, rounded, above⟩ | ⟨kind, broken⟩
  · exact Or.inl (extract_beyond_doubles usable kind beyond)
  · right; left
    obtain ⟨negative, mantissa, exponent, rfl⟩ := to_float_finite converted
    obtain ⟨m, e, rfl, bounded⟩ := to_single_finite rounded
    obtain ⟨failed, text⟩ := (single_text_fails_iff negative bounded).mpr above
    refine ⟨failed.value, ?_⟩
    simp [Field.extract, usable.consistent, extractValue, kind, extractSingle, floatOf, converted,
      singleOf, toSingle, rounded, text, bind, Except.bind, Except.map]
  · refine Or.inr (Or.inr ⟨?_, broken⟩)
    simp [Field.extract, usable.consistent, extractValue, kind, broken_extract broken, Except.map]

/-! Payloads -/

/-- The first field whose value is not extracted is one that its value escapes. -/
def StopsAtEscape (table : String) (isInput : Bool) (fragments : List Json)
    (fields : List Field) : Prop :=
  ∃ before f after value, fields = before ++ f :: after ∧
    (∃ found, validateFields table isInput fragments before = .ok found) ∧
    valueIn? f.title fragments = some value ∧ Escapes f value

section Fields

variable {table : String} {isInput : Bool} {fragments : List Json} {f : Field}

/-- What the field in front makes of any fields behind it. -/
inductive Leads (table : String) (isInput : Bool) (fragments : List Json) (f : Field) : Prop
  | skips
      (kept : ∀ value, valueIn? f.title fragments = some value → ¬ Escapes f value)
      (leaves : ∀ more, validateFields table isInput fragments (f :: more) =
        validateFields table isInput fragments more)
  | passes (typed : TypedValue)
      (kept : ∀ value, valueIn? f.title fragments = some value → ¬ Escapes f value)
      (adds : ∀ more, validateFields table isInput fragments (f :: more) =
        (validateFields table isInput fragments more).map ((f.title, typed) :: ·))
  | refuses (e : ValidationError)
      (kept : ∀ value, valueIn? f.title fragments = some value → ¬ Escapes f value)
      (ends : ∀ more, validateFields table isInput fragments (f :: more) = .error (.invalid e))
  | escapes (value : Json) (stored : valueIn? f.title fragments = some value)
      (escaped : Escapes f value)
      (fails : ∀ more, ¬ Decides (validateFields table isInput fragments (f :: more)))

theorem absent_leads (absent : valueIn? f.title fragments = none) :
    Leads table isInput fragments f := by
  have kept : ∀ value, valueIn? f.title fragments = some value → ¬ Escapes f value := by
    simp [absent]
  by_cases excuse : excused isInput f = true
  · refine .skips kept fun more => ?_
    simp [validateFields, absent, excuse]
  · refine .refuses (.missing f.title f.datatype table) kept fun more => ?_
    simp [validateFields, absent, excuse]

theorem stored_leads (usable : Usable f) {value : Json}
    (stored : valueIn? f.title fragments = some value) : Leads table isInput fragments f := by
  by_cases escaped : Escapes f value
  · refine .escapes value stored escaped fun more => ?_
    rcases extract_escapes usable escaped with failed | ⟨x, failed⟩ | ⟨failed, _⟩
    · simp [validateFields, stored, failed, Decides, bind, Except.bind]
    · simp [validateFields, stored, failed, Decides, bind, Except.bind]
    · simp [validateFields, stored, failed, Decides, bind, Except.bind]
  · have kept : ∀ other, valueIn? f.title fragments = some other →
        ¬ Escapes f other := by
      intro other same
      rw [stored] at same
      cases same
      exact escaped
    rcases (extract_answers_iff usable value).mpr escaped with
      ⟨typed, extracted⟩ | ⟨violation, refused⟩
    · refine .passes typed kept fun more => ?_
      simp only [validateFields, stored, extracted, bind, Except.bind]
      cases validateFields table isInput fragments more with
      | ok others => rfl
      | error e => rfl
    · refine .refuses (.value f.title f.datatype violation) kept fun more => ?_
      simp [validateFields, stored, refused, bind, Except.bind]

/-- A field in front that fails, and not by an escape, keeps later ones from being reached. -/
theorem stopped_before {rest : List Field}
    (fails : ∀ more found, validateFields table isInput fragments (f :: more) ≠ .ok found)
    (kept : ∀ value, valueIn? f.title fragments = some value → ¬ Escapes f value) :
    ¬ StopsAtEscape table isInput fragments (f :: rest) := by
  rintro ⟨before, g, after, value, split, ⟨found, passed⟩, stored, escapes⟩
  cases before with
  | nil =>
      cases split
      exact kept value stored escapes
  | cons first more =>
      cases split
      exact fails more found passed

/-- A field in front that passes leaves the decision to the others. -/
theorem passed_before {rest : List Field}
    (passes : ∀ more, (∃ found, validateFields table isInput fragments (f :: more) = .ok found) ↔
      ∃ found, validateFields table isInput fragments more = .ok found)
    (kept : ∀ value, valueIn? f.title fragments = some value → ¬ Escapes f value) :
    StopsAtEscape table isInput fragments (f :: rest) ↔
      StopsAtEscape table isInput fragments rest := by
  constructor
  · rintro ⟨before, g, after, value, split, passed, stored, escapes⟩
    cases before with
    | nil =>
        cases split
        exact absurd escapes (kept value stored)
    | cons first more =>
        cases split
        exact ⟨more, g, after, value, rfl, (passes more).mp passed, stored, escapes⟩
  · rintro ⟨before, g, after, value, rfl, passed, stored, escapes⟩
    exact ⟨f :: before, g, after, value, rfl, (passes before).mpr passed, stored, escapes⟩

theorem validate_fields_decides_iff (fields : List Field) (usable : ∀ f ∈ fields, Usable f) :
    Decides (validateFields table isInput fragments fields) ↔
      ¬ StopsAtEscape table isInput fragments fields := by
  induction fields with
  | nil =>
      refine iff_of_true (Or.inl ⟨[], rfl⟩) ?_
      rintro ⟨before, f, after, _, split, _⟩
      simp at split
  | cons f rest ih =>
      have tail := ih fun g member => usable g (List.mem_cons_of_mem f member)
      have leads : Leads table isInput fragments f := by
        cases stored : valueIn? f.title fragments with
        | none => exact absent_leads stored
        | some value => exact stored_leads (usable f (by simp)) stored
      cases leads with
      | skips kept leaves =>
          rw [leaves, tail, passed_before (by simp [leaves]) kept]
      | passes typed kept adds =>
          rw [adds, decides_map, tail, passed_before (by simp [adds, map_ok_iff]) kept]
      | refuses e kept ends =>
          rw [ends]
          exact iff_of_true (Or.inr ⟨e, rfl⟩) (stopped_before (by simp [ends]) kept)
      | escapes value stored escaped fails =>
          have stops : StopsAtEscape table isInput fragments (f :: rest) :=
            ⟨[], f, rest, value, rfl, ⟨[], rfl⟩, stored, escaped⟩
          exact iff_of_false (fails rest) (not_not.mpr stops)

end Fields

theorem validate_decides_iff (t : Table) (payload : Json) (isInput : Bool)
    (usable : ∀ f ∈ t.fields.entries, Usable f) :
    Decides (t.validate payload isInput) ↔
      ¬ ∃ fragments, fragments? payload = some fragments ∧
        StopsAtEscape t.title isInput fragments t.fields.entries := by
  rw [Table.validate]
  cases parts : fragments? payload with
  | none => exact iff_of_true (Or.inr ⟨_, rfl⟩) (by simp)
  | some fragments =>
      have fields : Decides (validateFields t.title isInput fragments t.fields.entries) ↔
          ¬ StopsAtEscape t.title isInput fragments t.fields.entries :=
        validate_fields_decides_iff t.fields.entries usable
      simpa using fields

/-- Extraction answers exactly for the values that do not escape, and validation decides exactly
when the first field that does not pass is none that its value escapes. -/
theorem answers_unless_escaped (f : Field) (value : Json) (usable : Usable f) (t : Table)
    (payload : Json) (isInput : Bool) (allUsable : ∀ f ∈ t.fields.entries, Usable f) :
    (Answers f (f.extract value) ↔ ¬ Escapes f value) ∧
    (Escapes f value → f.extract value = .error .tooLargeForDouble ∨
      (∃ x, f.extract value = .error (.tooLargeForSingle x)) ∨
      (f.extract value = .error .unencodable ∧ Unencodable f value)) ∧
    (Decides (t.validate payload isInput) ↔
      ¬ ∃ fragments, fragments? payload = some fragments ∧
        StopsAtEscape t.title isInput fragments t.fields.entries) := by
  refine ⟨extract_answers_iff usable value, extract_escapes usable, ?_⟩
  exact validate_decides_iff t payload isInput allUsable

end Names

open scoped Pattern.Unnamed

def priceField : Field := { title := "price", datatype := .float64 }

def priceTable : Table := { title := "prices", fields := Catalog.empty.put priceField }

theorem price_usable : Usable priceField := ⟨rfl, by simp [priceField]⟩

theorem ten_to_400_beyond : BeyondDoubles (.integer (10 ^ 400)) :=
  ⟨10 ^ 400, rfl, by decide +kernel⟩

theorem answers_unless_escaped_price :
    ¬ Answers priceField (priceField.extract (.integer (10 ^ 400))) ∧
    Decides (priceTable.validate (.object [("price", .float (.finite false 1 (-1)))]) true) := by
  have only : priceTable.fields.entries = [priceField] := rfl
  obtain ⟨answers, _, decides⟩ := answers_unless_escaped priceField (.integer (10 ^ 400))
    price_usable priceTable (.object [("price", .float (.finite false 1 (-1)))]) true
    (by simpa [only] using price_usable)
  constructor
  · rw [answers, not_not]
    exact Or.inl ⟨Or.inl rfl, ten_to_400_beyond⟩
  · rw [decides]
    rintro ⟨fragments, ⟨⟩, before, f, after, value, split, _, stored, escapes⟩
    rw [only] at split
    cases before with
    | nil =>
        cases split
        cases stored
        simp [Escapes, BeyondDoubles, priceField] at escapes
    | cons first more =>
        have short := congrArg List.length split
        simp at short

/-- An integer beyond the doubles ends extraction in a failure that is no validation error. -/
theorem huge_integer_unanswered :
    Usable priceField ∧
      priceField.extract (.integer (10 ^ 400)) = .error .tooLargeForDouble ∧
      ¬ Answers priceField (priceField.extract (.integer (10 ^ 400))) := by
  have failed := extract_beyond_doubles price_usable (Or.inl rfl) ten_to_400_beyond
  refine ⟨price_usable, failed, ?_⟩
  rw [failed]
  simp [Answers]

end SchemaCompiler.Validation
