import SchemaCompiler.Proofs.Validation.Integers

/-!
What the fields that hold no numbers accept, and with which kind of error they refuse anything
else, datatype by datatype. Bits and enum indexes are whole numbers, but not to be counted with.
-/

namespace SchemaCompiler.Validation

open Text

variable {f : Field}

/-! Bytes -/

def byteNumber (b : UInt8) : Json := .integer b.toNat

/-- Why an element is no byte. -/
inductive BadByte : Json → ErrorKind → Prop
  | cast {item : Json} (other : ∀ n, ¬ (item = .integer n ∧ OfWidth false 64 n)) :
      BadByte item .cast
  | narrowing {n : Int} (whole : OfWidth false 64 n) (wide : ¬ OfWidth false 8 n) :
      BadByte (.integer n) .narrowing

theorem byte_number_iff (item : Json) (b : UInt8) :
    item = byteNumber b ↔ ∃ n, item = .integer n ∧ OfWidth false 8 n ∧ b = UInt8.ofNat n.toNat := by
  constructor
  · rintro rfl
    have small := b.toNat_lt
    refine ⟨b.toNat, rfl, ⟨by omega, by omega⟩, ?_⟩
    simp
  · rintro ⟨n, rfl, ⟨low, high⟩, rfl⟩
    have back : (UInt8.ofNat n.toNat).toNat = n.toNat := Nat.mod_eq_of_lt (by omega)
    rw [byteNumber, back, Int.toNat_of_nonneg low]

theorem byte_verdict (f : Field) (item : Json) :
    Verdict f (fun b => item = byteNumber b) (BadByte item) (byteOf f item) := by
  have steps := verdict_bind (integer_verdict f false item) fun n _ =>
    verdict_bind (narrow_verdict f false 8 n) fun m _ => verdict_ok f (UInt8.ofNat m.toNat)
  refine verdict_of_iff steps (fun b => ?_) fun kind => ?_
  · rw [byte_number_iff]
    constructor
    · rintro ⟨n, ⟨same, _⟩, m, ⟨fits, rfl⟩, rfl⟩
      exact ⟨m, same, fits, rfl⟩
    · rintro ⟨n, same, fits, rfl⟩
      -- What fits a byte has passed the 64 bits in front of it.
      exact ⟨n, ⟨same, of_width_mono (by decide) fits⟩, n, ⟨fits, rfl⟩, rfl⟩
  · constructor
    · rintro (⟨rfl, other⟩ | ⟨n, ⟨rfl, whole⟩, ⟨rfl, wide⟩ | ⟨_, _, none⟩⟩)
      · exact .cast other
      · exact .narrowing whole wide
      · exact none.elim
    · rintro (other | ⟨whole, wide⟩)
      · exact .inl ⟨rfl, other⟩
      · exact .inr ⟨_, ⟨rfl, whole⟩, .inl ⟨rfl, wide⟩⟩

theorem byte_numbers_iff (items : List Json) (bytes : List UInt8) :
    List.Forall₂ (fun item b => item = byteNumber b) items bytes ↔
      items = bytes.map byteNumber := by
  rw [← List.forall₂_map_right_iff, List.forall₂_eq_eq_eq]

/-! Texts -/

/-- Short enough in characters and in bytes, and matched by the regex as a whole. -/
structure TextFits [Pattern.CharacterNames] (f : Field) (text : String) : Prop where
  short : Within f.characters text.length
  small : Within f.bytes text.utf8ByteSize
  pattern : ∀ regex, f.regex = some regex →
    Pattern.fullMatch regex.toList text.toList = .ok true

theorem text_verdict (f : Field) (value : Json) :
    Verdict f (fun text : WideText => value = .string text)
      (fun kind => kind = .cast ∧ ∀ text, ¬ value = .string text) (textOf f value) := by
  refine verdict_of_ok_iff .shape (text_of_ok_iff f value) fun other => ?_
  cases value with
  | string text => exact absurd rfl (other text)
  | _ => rfl

theorem bytes_verdict (f : Field) (label : String) (size : Nat) :
    Verdict f (fun _ => Within f.bytes size) (fun kind => kind = .bound ∧ ¬ Within f.bytes size)
      (checkBytes f label size) :=
  limit_verdict f f.bytes size (.bytes label · size) fun _ => rfl

/-- A regex that can be read either matches or does not. -/
theorem pattern_verdict [Pattern.CharacterNames]
    (readable : ∀ regex, f.regex = some regex → ∃ node, Pattern.read regex.toList = .ok node)
    (text : String) :
    Verdict f
      (fun _ => ∀ regex, f.regex = some regex →
        Pattern.fullMatch regex.toList text.toList = .ok true)
      (fun kind => kind = .bound ∧ ¬ ∀ regex, f.regex = some regex →
        Pattern.fullMatch regex.toList text.toList = .ok true)
      (checkPattern f text) := by
  rw [checkPattern]
  cases present : f.regex with
  | none => exact verdict_of_iff (verdict_ok f ()) (by simp) (by simp)
  | some regex =>
      obtain ⟨node, read⟩ := readable regex present
      have matched : ∃ b, Pattern.fullMatch regex.toList text.toList = .ok b :=
        ⟨_, by rw [Pattern.fullMatch, read]; rfl⟩
      obtain ⟨b, matched⟩ := matched
      simp only [matched, Option.some.injEq, forall_eq']
      cases b with
      | true => exact verdict_of_iff (verdict_ok f ()) (by simp) (by simp)
      | false =>
          exact verdict_of_iff (verdict_reject f (.pattern regex)) (by simp)
            (by simp [Violation.kind])

/-! Datatypes -/

/-- The value that is taken from what a field of the datatype accepts. -/
inductive Accepts [Pattern.CharacterNames] (f : Field) : Datatype → Json → Value → Prop
  | text {text : String} (fits : TextFits f text) : Accepts f .string (.string text) (.text text)
  | bytes {bytes : List UInt8} (short : Within f.bytes bytes.length) :
      Accepts f .byteString (.array (bytes.map byteNumber)) (.bytes bytes)
  | object {members : List (WideText × Json)} : Accepts f .json (.object members) (.object members)
  | boolean {b : Bool} : Accepts f .boolean (.bool b) (.boolean b)
  | bit {n : Int} (bit : n = 0 ∨ n = 1) : Accepts f .bit (.integer n) (.integer n)
  | index {labels : List String} {n : Int} (narrow : OfWidth false 32 n)
      (listed : f.labels = some labels) (label : n < labels.length) :
      Accepts f .enum (.integer n) (.integer n)
  | member {members : LabelSet} {text : String} (listed : f.members = some members)
      (member : lower text ∈ members.toList) : Accepts f .set (.string text) (.text (lower text))

/-- The shape of value that fields of a datatype read. -/
def Shaped (value : Json) : Datatype → Prop
  | .string | .set => ∃ text, value = .string text
  | .byteString => ∃ items, value = .array items
  | .json => ∃ members, value = .object members
  | .boolean => ∃ b, value = .bool b
  | _ => ∃ n, value = .integer n ∧ OfWidth false 64 n

/-- The kind of error that a field of the datatype refuses a value with. -/
inductive Refuses [Pattern.CharacterNames] (f : Field) : Datatype → Json → ErrorKind → Prop
  | shape {d : Datatype} {value : Json} (other : ¬ Shaped value d) : Refuses f d value .cast
  | unfit {text : String} (unfit : ¬ TextFits f text) : Refuses f .string (.string text) .bound
  /-- Of text that has no bytes only the length is tested. -/
  | longBroken {text : BrokenText} (long : ¬ Within f.characters text.points.length) :
      Refuses f .string (.string (.broken text)) .bound
  /-- The first element that is no byte decides. -/
  | badByte {before after : List Json} {item : Json} {kind : ErrorKind}
      (earlier : ∀ e ∈ before, ∃ b, e = byteNumber b) (bad : BadByte item kind) :
      Refuses f .byteString (.array (before ++ item :: after)) kind
  | manyBytes {bytes : List UInt8} (many : ¬ Within f.bytes bytes.length) :
      Refuses f .byteString (.array (bytes.map byteNumber)) .bound
  | noBit {n : Int} (whole : OfWidth false 64 n) (other : ¬ (n = 0 ∨ n = 1)) :
      Refuses f .bit (.integer n) .bound
  | wideIndex {n : Int} (whole : OfWidth false 64 n) (wide : ¬ OfWidth false 32 n) :
      Refuses f .enum (.integer n) .narrowing
  | noLabel {labels : List String} {n : Int} (narrow : OfWidth false 32 n)
      (listed : f.labels = some labels) (beyond : labels.length ≤ n) :
      Refuses f .enum (.integer n) .domain
  | noMember {members : LabelSet} {text : String} (listed : f.members = some members)
      (other : lower text ∉ members.toList) : Refuses f .set (.string text) .domain
  /-- Text with a half of a pair is no member of any set. -/
  | brokenMember {text : BrokenText} : Refuses f .set (.string (.broken text)) .domain

theorem bit_width {n : Int} (bit : n = 0 ∨ n = 1) : OfWidth false 64 n := by
  rcases bit with rfl | rfl
  · exact ⟨by decide, by decide⟩
  · exact ⟨by decide, by decide⟩

section Names

variable [Pattern.CharacterNames]

theorem accepts_shaped {d : Datatype} {value : Json} {v : Value} (accepts : Accepts f d value v) :
    Shaped value d := by
  cases accepts with
  | text | member => exact ⟨_, rfl⟩
  | bytes => exact ⟨_, rfl⟩
  | object => exact ⟨_, rfl⟩
  | boolean => exact ⟨_, rfl⟩
  | bit bit => exact ⟨_, rfl, bit_width bit⟩
  | index narrow => exact ⟨_, rfl, of_width_mono (by decide) narrow⟩

theorem refuses_shaped {d : Datatype} {value : Json} {kind : ErrorKind}
    (refuses : Refuses f d value kind) : kind = .cast ∨ Shaped value d := by
  cases refuses with
  | shape => exact .inl rfl
  | unfit | longBroken | noMember | brokenMember => exact .inr ⟨_, rfl⟩
  | badByte | manyBytes => exact .inr ⟨_, rfl⟩
  | noBit whole | wideIndex whole => exact .inr ⟨_, rfl, whole⟩
  | noLabel narrow => exact .inr ⟨_, rfl, of_width_mono (by decide) narrow⟩

/-- A value of another shape is refused for it and for nothing else. -/
theorem shape_verdict {d : Datatype} {value : Json} {x : Check Value} (other : ¬ Shaped value d)
    (rejected : x = reject f .shape) :
    Verdict f (Accepts f d value) (Refuses f d value) x := by
  rw [rejected]
  refine verdict_of_iff (verdict_reject f .shape) (fun v => ?_) fun kind => ?_
  · exact iff_of_false id fun accepts => other (accepts_shaped accepts)
  · constructor
    · rintro rfl
      exact .shape other
    · exact fun refuses => (refuses_shaped refuses).resolve_right other

theorem plain_extract_verdict
    (readable : ∀ regex, f.regex = some regex → ∃ node, Pattern.read regex.toList = .ok node)
    (text : String) :
    Verdict f (Accepts f .string (.string text)) (Refuses f .string (.string text))
      (extractText f (.string text)) := by
  have steps := verdict_bind (size_verdict f text.length) fun _ _ =>
    verdict_bind (bytes_verdict f "Field" text.utf8ByteSize) fun _ _ =>
      verdict_bind (pattern_verdict readable text) fun _ _ => verdict_ok f (Value.text text)
  refine verdict_of_iff steps (fun v => ?_) fun kind => ?_
  · constructor
    · rintro ⟨_, short, _, small, _, pattern, rfl⟩
      exact .text ⟨short, small, pattern⟩
    · intro accepts
      cases accepts with
      | text fits => exact ⟨(), fits.short, (), fits.small, (), fits.pattern, rfl⟩
  · constructor
    · rintro (⟨rfl, long⟩ | ⟨_, _, ⟨rfl, large⟩ | ⟨_, _, ⟨rfl, apart⟩ | ⟨_, _, none⟩⟩⟩)
      · exact .unfit fun fits => long fits.short
      · exact .unfit fun fits => large fits.small
      · exact .unfit fun fits => apart fits.pattern
      · exact none.elim
    · intro refuses
      cases refuses with
      | shape other => exact absurd ⟨_, rfl⟩ other
      | unfit unfit =>
          -- All three checks refuse alike, so which of them is the first to fail does not show.
          by_cases short : Within f.characters text.length
          · refine .inr ⟨(), short, ?_⟩
            by_cases small : Within f.bytes text.utf8ByteSize
            · exact .inr ⟨(), small, .inl ⟨rfl, fun pattern => unfit ⟨short, small, pattern⟩⟩⟩
            · exact .inl ⟨rfl, small⟩
          · exact .inl ⟨rfl, short⟩

theorem long_extract {text : BrokenText} (long : ¬ Within f.characters text.points.length) :
    ∃ violation : Violation, violation.kind = .bound ∧
      extractText f (.string (.broken text)) = reject f violation := by
  have refused := (size_verdict f text.points.length).refused .bound
  obtain ⟨violation, kind, failed⟩ := refused.mpr ⟨rfl, long⟩
  refine ⟨violation, kind, ?_⟩
  simp [extractText, textOf, WideText.length, failed, bind, Except.bind, reject]

theorem broken_extract_verdict {text : BrokenText}
    (long : ¬ Within f.characters text.points.length) :
    Verdict f (Accepts f .string (.string (.broken text)))
      (Refuses f .string (.string (.broken text))) (extractText f (.string (.broken text))) := by
  obtain ⟨violation, bound, failed⟩ := long_extract long
  rw [failed]
  refine verdict_of_iff (verdict_reject f violation) (fun v => ?_) fun kind => ?_
  · refine iff_of_false id fun accepts => ?_
    cases accepts
  · rw [bound]
    constructor
    · rintro rfl
      exact .longBroken long
    · intro refuses
      cases refuses with
      | shape other => exact absurd ⟨_, rfl⟩ other
      | longBroken => rfl

/-- Text without bytes leaves no verdict unless it is refused for its length. -/
theorem text_extract_verdict
    (readable : ∀ regex, f.regex = some regex → ∃ node, Pattern.read regex.toList = .ok node)
    (value : Json) (encodable : ¬ Unencodable f value) :
    Verdict f (Accepts f .string value) (Refuses f .string value) (extractText f value) := by
  cases value with
  | string wide =>
      cases wide with
      | plain text => exact plain_extract_verdict readable text
      | broken text => exact broken_extract_verdict fun short => encodable ⟨text, rfl, short⟩
  | _ => exact shape_verdict (by simp [Shaped]) rfl

theorem array_verdict (f : Field) (items : List Json) :
    Verdict f (Accepts f .byteString (.array items)) (Refuses f .byteString (.array items))
      (extractBytes f (.array items)) := by
  have steps := verdict_bind (verdict_mapM (byte_verdict f) items) fun bytes _ =>
    verdict_bind (bytes_verdict f "Bytestring" bytes.length) fun _ _ =>
      verdict_ok f (Value.bytes bytes)
  simp only [byte_numbers_iff] at steps
  refine verdict_of_iff steps (fun v => ?_) fun kind => ?_
  · constructor
    · rintro ⟨bytes, rfl, _, short, rfl⟩
      exact .bytes short
    · intro accepts
      cases accepts with
      | bytes short => exact ⟨_, rfl, (), short, rfl⟩
  · constructor
    · rintro (⟨before, item, after, rfl, earlier, bad⟩ | ⟨bytes, rfl, ⟨rfl, many⟩ | ⟨_, _, none⟩⟩)
      · exact .badByte earlier bad
      · exact .manyBytes many
      · exact none.elim
    · intro refuses
      cases refuses with
      | shape other => exact absurd ⟨items, rfl⟩ other
      | badByte earlier bad => exact .inl ⟨_, _, _, rfl, earlier, bad⟩
      | manyBytes many => exact .inr ⟨_, rfl, .inl ⟨rfl, many⟩⟩

theorem bytes_extract_verdict (f : Field) (value : Json) :
    Verdict f (Accepts f .byteString value) (Refuses f .byteString value)
      (extractBytes f value) := by
  cases value with
  | array items => exact array_verdict f items
  | _ => exact shape_verdict (by simp [Shaped]) rfl

theorem object_extract_verdict (f : Field) (value : Json) :
    Verdict f (Accepts f .json value) (Refuses f .json value)
      (match value with
        | .object members => return .object members
        | _ => reject f .shape) := by
  cases value with
  | object members =>
      refine verdict_of_iff (verdict_ok f (Value.object members)) (fun v => ?_) fun kind => ?_
      · constructor
        · rintro rfl
          exact .object
        · intro accepts
          cases accepts with
          | object => rfl
      · refine iff_of_false id fun refuses => ?_
        cases refuses with
        | shape other => exact other ⟨members, rfl⟩
  | _ => exact shape_verdict (by simp [Shaped]) rfl

theorem boolean_extract_verdict (f : Field) (value : Json) :
    Verdict f (Accepts f .boolean value) (Refuses f .boolean value)
      (match value with
        | .bool b => return .boolean b
        | _ => reject f .shape) := by
  cases value with
  | bool b =>
      refine verdict_of_iff (verdict_ok f (Value.boolean b)) (fun v => ?_) fun kind => ?_
      · constructor
        · rintro rfl
          exact .boolean
        · intro accepts
          cases accepts with
          | boolean => rfl
      · refine iff_of_false id fun refuses => ?_
        cases refuses with
        | shape other => exact other ⟨b, rfl⟩
  | _ => exact shape_verdict (by simp [Shaped]) rfl

theorem bit_extract_verdict (f : Field) (value : Json) :
    Verdict f (Accepts f .bit value) (Refuses f .bit value) (extractBit f value) := by
  rw [extractBit]
  refine verdict_of_iff (verdict_bind (integer_verdict f false value) fun n _ =>
    verdict_choice (n = 0 ∨ n = 1) (Value.integer n) (.notABit n)
      (fun bit => if_pos (by simpa using bit)) fun other => if_neg (by simpa using other))
    (fun v => ?_) fun kind => ?_
  · constructor
    · rintro ⟨n, ⟨rfl, _⟩, bit, rfl⟩
      exact .bit bit
    · intro accepts
      cases accepts with
      | bit bit => exact ⟨_, ⟨rfl, bit_width bit⟩, bit, rfl⟩
  · constructor
    · rintro (⟨rfl, other⟩ | ⟨n, ⟨rfl, whole⟩, rfl, other⟩)
      · exact .shape (not_exists.mpr other)
      · exact .noBit whole other
    · intro refuses
      cases refuses with
      | shape other => exact .inl ⟨rfl, not_exists.mp other⟩
      | noBit whole other => exact .inr ⟨_, ⟨rfl, whole⟩, rfl, other⟩

theorem index_extract_verdict (labelled : f.labels.isSome = true) (value : Json) :
    Verdict f (Accepts f .enum value) (Refuses f .enum value) (extractIndex f value) := by
  obtain ⟨labels, listed⟩ := Option.isSome_iff_exists.mp labelled
  rw [extractIndex, listed]
  refine verdict_of_iff (verdict_bind (integer_verdict f false value) fun n _ =>
    verdict_bind (narrow_verdict f false 32 n) fun m _ =>
      verdict_choice (m < labels.length) (Value.integer m) (.enumIndex m labels.length)
        (fun label => if_neg (not_le.mpr label)) fun beyond => if_pos (not_lt.mp beyond))
    (fun v => ?_) fun kind => ?_
  · constructor
    · rintro ⟨_, ⟨rfl, _⟩, n, ⟨narrow, rfl⟩, label, rfl⟩
      exact .index narrow listed label
    · intro accepts
      cases accepts with
      | index narrow known label =>
          rw [listed] at known
          cases known
          exact ⟨_, ⟨rfl, of_width_mono (by decide) narrow⟩, _, ⟨narrow, rfl⟩, label, rfl⟩
  · constructor
    · rintro (⟨rfl, other⟩ | ⟨n, ⟨rfl, whole⟩, ⟨rfl, wide⟩ | ⟨_, ⟨narrow, rfl⟩, rfl, beyond⟩⟩)
      · exact .shape (not_exists.mpr other)
      · exact .wideIndex whole wide
      · exact .noLabel narrow listed (not_lt.mp beyond)
    · intro refuses
      cases refuses with
      | shape other => exact .inl ⟨rfl, not_exists.mp other⟩
      | wideIndex whole wide => exact .inr ⟨_, ⟨rfl, whole⟩, .inl ⟨rfl, wide⟩⟩
      | noLabel narrow known beyond =>
          rw [listed] at known
          cases known
          exact .inr ⟨_, ⟨rfl, of_width_mono (by decide) narrow⟩,
            .inr ⟨_, ⟨narrow, rfl⟩, rfl, not_lt.mpr beyond⟩⟩

theorem plain_member_verdict {members : LabelSet} (listed : f.members = some members)
    (text : String) :
    Verdict f (Accepts f .set (.string text)) (Refuses f .set (.string text))
      (extractMember f (.string text)) := by
  have chosen : Verdict f (fun v => lower text ∈ members.toList ∧ v = .text (lower text))
      (fun kind => kind = .domain ∧ lower text ∉ members.toList)
      (extractMember f (.string text)) := by
    refine verdict_choice (lower text ∈ members.toList) (Value.text (lower text))
      (.notAMember (lower text)) (fun member => ?_) fun other => ?_
    all_goals
      simp only [extractMember, textOf, listed, WideText.shown_plain, bind, Except.bind]
    · exact if_pos (List.contains_iff_mem.mpr member)
    · exact if_neg (mt List.contains_iff_mem.mp other)
  refine verdict_of_iff chosen (fun v => ?_) fun kind => ?_
  · constructor
    · rintro ⟨member, rfl⟩
      exact .member listed member
    · intro accepts
      cases accepts with
      | member known member =>
          rw [listed] at known
          cases known
          exact ⟨member, rfl⟩
  · constructor
    · rintro ⟨rfl, other⟩
      exact .noMember listed other
    · intro refuses
      cases refuses with
      | shape other => exact absurd ⟨_, rfl⟩ other
      | noMember known other =>
          rw [listed] at known
          cases known
          exact ⟨rfl, other⟩

theorem broken_member_verdict {members : LabelSet} (listed : f.members = some members)
    (text : BrokenText) :
    Verdict f (Accepts f .set (.string (.broken text))) (Refuses f .set (.string (.broken text)))
      (extractMember f (.string (.broken text))) := by
  have refused : extractMember f (.string (.broken text)) =
      reject f (.notAMember (lower (WideText.broken text).shown)) := by
    simp only [extractMember, textOf, listed, bind, Except.bind]
    exact if_neg (by simp [WideText.isPlain])
  rw [refused]
  refine verdict_of_iff (verdict_reject f _) (fun v => ?_) fun kind => ?_
  · refine iff_of_false id fun accepts => ?_
    cases accepts
  · constructor
    · rintro rfl
      exact .brokenMember
    · intro refuses
      cases refuses with
      | shape other => exact absurd ⟨_, rfl⟩ other
      | brokenMember => rfl

theorem member_extract_verdict (listing : f.members.isSome = true) (value : Json) :
    Verdict f (Accepts f .set value) (Refuses f .set value) (extractMember f value) := by
  obtain ⟨members, listed⟩ := Option.isSome_iff_exists.mp listing
  cases value with
  | string wide =>
      cases wide with
      | plain text => exact plain_member_verdict listed text
      | broken text => exact broken_member_verdict listed text
  | _ => exact shape_verdict (by simp [Shaped]) rfl

/-- The datatypes whose values are not counted with. -/
def Uncounted (d : Datatype) : Prop :=
  d ∈ [Datatype.string, .byteString, .json, .boolean, .bit, .enum, .set]

theorem uncounted_verdict (consistent : f.Consistent) (uncounted : Uncounted f.datatype)
    (readable : f.datatype = .string →
      ∀ regex, f.regex = some regex → ∃ node, Pattern.read regex.toList = .ok node)
    (value : Json) (encodable : ¬ (f.datatype = .string ∧ Unencodable f value)) :
    Verdict f (Accepts f f.datatype value) (Refuses f f.datatype value) (extractValue f value) := by
  obtain ⟨enums, sets⟩ := consistent
  unfold extractValue
  cases kind : f.datatype with
  | string =>
      exact text_extract_verdict (readable kind) value fun broken => encodable ⟨kind, broken⟩
  | byteString => exact bytes_extract_verdict f value
  | json => exact object_extract_verdict f value
  | boolean => exact boolean_extract_verdict f value
  | bit => exact bit_extract_verdict f value
  | enum => exact index_extract_verdict (enums.mp kind) value
  | set => exact member_extract_verdict (sets.mp kind) value
  | _ =>
      rw [kind] at uncounted
      simp [Uncounted] at uncounted

/-- Text without bytes is neither accepted nor refused. -/
theorem unencodable_extracted (consistent : f.Consistent) {value : Json}
    (kind : f.datatype = .string) (broken : Unencodable f value) :
    f.extract value = .error .unencodable := by
  rw [Field.extract, f.checkConsistency_eq_ok_iff.mpr consistent]
  simp [extractValue, kind, broken_extract broken, Except.map]

theorem unencodable_unjudged {value : Json} (broken : Unencodable f value) :
    (∀ v, ¬ Accepts f .string value v) ∧ ∀ kind, ¬ Refuses f .string value kind := by
  obtain ⟨text, rfl, short⟩ := broken
  constructor
  · intro v accepts
    cases accepts
  · intro kind refuses
    cases refuses with
    | shape other => exact other ⟨_, rfl⟩
    | longBroken long => exact long short

/-- Extraction from a field without numbers gives exactly what is accepted, and refuses anything
else with the kind of error of the first clause that is violated. Only text that has no bytes, if
it is not too long already, ends in a failure of its own. -/
theorem uncounted_extracted (consistent : f.Consistent) (uncounted : Uncounted f.datatype)
    (readable : f.datatype = .string →
      ∀ regex, f.regex = some regex → ∃ node, Pattern.read regex.toList = .ok node)
    (value : Json) :
    (∀ typed, f.extract value = .ok typed ↔
      ∃ v, Accepts f f.datatype value v ∧ typed = ⟨f.datatype, v⟩) ∧
    (∀ kind, RefusedAs f kind (f.extract value) ↔ Refuses f f.datatype value kind) ∧
    (¬ (f.datatype = .string ∧ Unencodable f value) →
      (∃ typed, f.extract value = .ok typed) ∨ ∃ kind, RefusedAs f kind (f.extract value)) ∧
    (f.datatype = .string → Unencodable f value → f.extract value = .error .unencodable) := by
  by_cases broken : f.datatype = .string ∧ Unencodable f value
  · have failed := unencodable_extracted consistent broken.1 broken.2
    obtain ⟨unaccepted, unrefused⟩ := unencodable_unjudged broken.2
    rw [failed, broken.1]
    refine ⟨fun typed => ?_, fun kind => ?_, fun whole => absurd broken.2 (whole ⟨rfl, ·⟩), ?_⟩
    · simp [unaccepted]
    · simp [RefusedAs, unrefused]
    · exact fun kind lost => failed ▸ rfl
  · have verdict := verdict_extract consistent
      (uncounted_verdict consistent uncounted readable value broken)
    refine ⟨verdict.accepted, verdict.refused, fun _ => ?_, fun kind lost => ?_⟩
    · rcases verdict.answers with passed | ⟨violation, refused⟩
      · exact .inl passed
      · exact .inr ⟨violation.kind, violation, rfl, refused⟩
    · exact absurd ⟨kind, lost⟩ broken

end Names

open scoped Pattern.Unnamed

def digestField : Field := { title := "digest", datatype := .byteString, bytes := some 2 }

theorem uncounted_extracted_digest :
    digestField.extract (.array [.integer 0, .integer 255]) =
      .ok ⟨.byteString, .bytes [0, 255]⟩ ∧
    RefusedAs digestField .narrowing
      (digestField.extract (.array [.integer 7, .integer 256, .bool true])) ∧
    RefusedAs digestField .bound
      (digestField.extract (.array [.integer 1, .integer 2, .integer 3])) := by
  have consistent : digestField.Consistent := by simp [Field.Consistent, digestField]
  have uncounted : Uncounted digestField.datatype := by simp [Uncounted, digestField]
  have outcome := uncounted_extracted consistent uncounted (by simp [digestField])
  refine ⟨?_, ?_, ?_⟩
  · have accepted : Accepts digestField .byteString (.array ([0, 255].map byteNumber))
        (.bytes [0, 255]) := .bytes (by simp [Within, digestField])
    exact ((outcome _).1 _).mpr ⟨.bytes [0, 255], accepted, rfl⟩
  · have earlier : ∀ e ∈ [Json.integer 7], ∃ b, e = byteNumber b := by
      simpa using ⟨7, rfl⟩
    have wide : BadByte (.integer 256) .narrowing := by
      apply BadByte.narrowing
      · simp [OfWidth]
      · simp [OfWidth]
    have refused : Refuses digestField .byteString
        (.array ([.integer 7] ++ .integer 256 :: [.bool true])) .narrowing := .badByte earlier wide
    exact ((outcome _).2.1 _).mpr refused
  · have refused : Refuses digestField .byteString (.array ([1, 2, 3].map byteNumber)) .bound :=
      .manyBytes (by simp [Within, digestField])
    exact ((outcome _).2.1 _).mpr refused

def noteField : Field := { title := "note", datatype := .string }

/-- The first half of a pair and nothing behind it. -/
def loneHalf : BrokenText := ⟨[.high 0], rfl, rfl⟩

/-- A field without any limit neither accepts such text nor refuses it as a value. -/
theorem lone_half_unjudged :
    noteField.Consistent ∧
      noteField.characters = none ∧ noteField.bytes = none ∧ noteField.regex = none ∧
      noteField.extract (.string (.broken loneHalf)) = .error .unencodable ∧
      (∀ typed, noteField.extract (.string (.broken loneHalf)) ≠ .ok typed) ∧
      ∀ kind, ¬ RefusedAs noteField kind (noteField.extract (.string (.broken loneHalf))) := by
  have consistent : noteField.Consistent := by simp [Field.Consistent, noteField]
  have broken : Unencodable noteField (.string (.broken loneHalf)) :=
    ⟨loneHalf, rfl, by simp [Within, noteField]⟩
  have failed := unencodable_extracted consistent rfl broken
  refine ⟨consistent, rfl, rfl, rfl, failed, fun typed => ?_, fun kind => ?_⟩
  · rw [failed]
    simp
  · rw [failed]
    simp [RefusedAs]

end SchemaCompiler.Validation
