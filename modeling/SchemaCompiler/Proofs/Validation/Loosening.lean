import SchemaCompiler.Proofs.Validation.Datatypes
import SchemaCompiler.Proofs.Validation.Fields

/-!
Loosening a schema. Every step of extraction that passes for a field passes for a looser one and
gives the same, so a record that a table takes is taken, with the same values, by every table
whose fields ask for less.
-/

namespace SchemaCompiler.Validation

open Decimal Outcome

variable {α β : Type} {f g : Field}

/-! Looser fields -/

/-- The limit stays, is raised or goes away. -/
def Raised (old new : Option Int) : Prop :=
  ∀ bound, new = some bound → ∃ lower ≤ bound, old = some lower

/-- The datatype stays, or whole numbers get more bits and keep or lack a sign as before. -/
inductive Widened : Datatype → Datatype → Prop
  | same (d : Datatype) : Widened d d
  | whole {d d' : Datatype} {signed : Bool} {bits more : Nat}
      (narrow : wholeWidth? d = some (signed, bits)) (wide : wholeWidth? d' = some (signed, more))
      (grows : bits ≤ more) : Widened d d'

/-- The second field asks of its values what the first one asks, or less. Validation does not look
at keys and references, so these may differ. -/
structure Looser (f g : Field) : Prop where
  title : g.title = f.title
  datatype : Widened f.datatype g.datatype
  characters : Raised f.characters g.characters
  bytes : Raised f.bytes g.bytes
  decimals : Raised f.decimals g.decimals
  regex : g.regex = f.regex ∨ g.regex = none
  labels : Option.Rel (· <+: ·) f.labels g.labels
  members : Option.Rel (fun old new => ∀ member ∈ old.toList, member ∈ new.toList)
    f.members g.members
  required : g.required = true → f.required = true
  generated : f.generated = true → g.generated = true

theorem rel_some_iff {r : α → α → Prop} {old new : Option α} (related : Option.Rel r old new) :
    old.isSome = true ↔ new.isSome = true := by
  cases related with
  | none => exact Iff.rfl
  | some _ => exact Iff.rfl

/-- Widening turns nothing into an enum or a set, nor back. -/
theorem widened_iff {d d' kind : Datatype} (widened : Widened d d')
    (other : wholeWidth? kind = none) : d = kind ↔ d' = kind := by
  cases widened with
  | same => exact Iff.rfl
  | whole narrow wide =>
      constructor
      · rintro rfl
        rw [other] at narrow
        cases narrow
      · rintro rfl
        rw [other] at wide
        cases wide

theorem looser_consistent (looser : Looser f g) (consistent : f.Consistent) : g.Consistent := by
  obtain ⟨enums, sets⟩ := consistent
  constructor
  · rw [← widened_iff looser.datatype rfl, enums, rel_some_iff looser.labels]
  · rw [← widened_iff looser.datatype rfl, sets, rel_some_iff looser.members]

theorem excused_looser (looser : Looser f g) {isInput : Bool} (excuse : excused isInput f = true) :
    excused isInput g = true := by
  rw [← Bool.not_eq_false, excused_false_iff] at excuse ⊢
  rintro ⟨needed, expected⟩
  exact excuse ⟨looser.required needed, fun given => expected ⟨given.1, looser.generated given.2⟩⟩

theorem within_raised {old new : Option Int} {size : Nat} (raised : Raised old new)
    (within : Within old size) : Within new size := by
  intro bound limited
  obtain ⟨lower, below, known⟩ := raised bound limited
  exact (within lower known).trans below

/-! Steps -/

/-- Whatever the first computation gives, the second gives too. -/
def Covers (x y : Check α) : Prop := ∀ a, x = .ok a → y = .ok a

section Steps

variable {x y : Check α}

theorem covers_refl (x : Check α) : Covers x x := fun _ passed => passed

theorem covers_reject (f : Field) (violation : Violation) (y : Check α) :
    Covers (reject f violation) y := fun _ passed => by cases passed

theorem covers_bind {k l : α → Check β} (first : Covers x y) (next : ∀ a, Covers (k a) (l a)) :
    Covers (x >>= k) (y >>= l) := by
  intro b passed
  obtain ⟨a, here, later⟩ := (bind_ok_iff x k b).mp passed
  exact (bind_ok_iff y l b).mpr ⟨a, first a here, next a b later⟩

theorem covers_mapM {step other : α → Check β} (each : ∀ a, Covers (step a) (other a))
    (items : List α) : Covers (items.mapM step) (items.mapM other) := by
  induction items with
  | nil => exact covers_refl _
  | cons a rest ih =>
      rw [List.mapM_cons, List.mapM_cons]
      exact covers_bind (each a) fun b => covers_bind ih fun more => covers_refl _

/-- A step covers another one when it accepts whatever that accepts. -/
theorem covers_of_verdicts {accepts accepts' : α → Prop} {refuses refuses' : ErrorKind → Prop}
    (strict : Verdict f accepts refuses x) (loose : Verdict g accepts' refuses' y)
    (less : ∀ a, accepts a → accepts' a) : Covers x y := by
  intro a passed
  exact (loose.accepted a).mpr (less a ((strict.accepted a).mp passed))

end Steps

-- A conversion looks at its field only to say which one it fails for.
theorem covers_text (value : Json) : Covers (textOf f value) (textOf g value) :=
  covers_of_verdicts (text_verdict f value) (text_verdict g value) fun _ => id

theorem covers_integer (signed : Bool) (value : Json) :
    Covers (integerOf f signed value) (integerOf g signed value) :=
  covers_of_verdicts (integer_verdict f signed value) (integer_verdict g signed value) fun _ => id

theorem covers_byte (item : Json) : Covers (byteOf f item) (byteOf g item) :=
  covers_of_verdicts (byte_verdict f item) (byte_verdict g item) fun _ => id

theorem covers_float (value : Json) : Covers (floatOf f value) (floatOf g value) := by
  intro x converted
  rw [float_of_ok_iff] at converted ⊢
  exact converted

theorem covers_single (x : FloatValue) : Covers (singleOf f x) (singleOf g x) := by
  intro y narrowed
  rw [single_of_ok_iff] at narrowed ⊢
  exact narrowed

theorem covers_narrow {signed : Bool} {bits more : Nat} (grows : bits ≤ more) (n : Int) :
    Covers (narrowTo f (wholeRange signed bits) n) (narrowTo g (wholeRange signed more) n) :=
  covers_of_verdicts (narrow_verdict f signed bits n) (narrow_verdict g signed more n)
    fun _ fits => ⟨of_width_mono grows fits.1, fits.2⟩

section Checks

variable (looser : Looser f g)

include looser

theorem covers_size (size : Nat) : Covers (checkSize f size) (checkSize g size) :=
  covers_of_verdicts (size_verdict f size) (size_verdict g size)
    fun _ => within_raised looser.characters

theorem covers_bytes (label : String) (size : Nat) :
    Covers (checkBytes f label size) (checkBytes g label size) :=
  covers_of_verdicts (bytes_verdict f label size) (bytes_verdict g label size)
    fun _ => within_raised looser.bytes

theorem covers_digits (text : List Char) : Covers (checkDigits f text) (checkDigits g text) := by
  refine covers_bind (covers_size looser _) fun _ => ?_
  exact covers_of_verdicts (limit_verdict f f.decimals _ (.decimals · _) fun _ => rfl)
    (limit_verdict g g.decimals _ (.decimals · _) fun _ => rfl)
    fun _ => within_raised looser.decimals

/-! Datatypes -/

theorem covers_bytes_extract (value : Json) :
    Covers (extractBytes f value) (extractBytes g value) := by
  cases value with
  | array items =>
      exact covers_bind (covers_mapM covers_byte items) fun bytes =>
        covers_bind (covers_bytes looser "Bytestring" _) fun _ => covers_refl _
  | _ => exact covers_reject f .shape _

theorem covers_double_extract (value : Json) :
    Covers (extractDouble f value) (extractDouble g value) :=
  covers_bind (covers_float value) fun x =>
    covers_bind (covers_digits looser (shortestText x)) fun _ => covers_refl _

theorem covers_single_extract (value : Json) :
    Covers (extractSingle f value) (extractSingle g value) := by
  refine covers_bind (covers_float value) fun x => covers_bind (covers_single x) fun y => ?_
  cases singleText y with
  | error e => exact covers_refl _
  | ok text => exact covers_bind (covers_digits looser text) fun _ => covers_refl _

variable [Pattern.CharacterNames]

theorem covers_pattern (text : String) : Covers (checkPattern f text) (checkPattern g text) := by
  rcases looser.regex with same | gone
  · intro done passed
    rw [checkPattern, same]
    unfold checkPattern at passed
    split at passed
    · exact passed
    · split at passed
      · exact passed
      all_goals cases passed
  · intro done _
    rw [checkPattern, gone]

theorem covers_text_extract (value : Json) : Covers (extractText f value) (extractText g value) :=
  covers_bind (covers_text value) fun text =>
    covers_bind (covers_size looser _) fun _ =>
      covers_bind (covers_refl (encodable text)) fun text =>
        covers_bind (covers_bytes looser "Field" _) fun _ =>
          covers_bind (covers_pattern looser text) fun _ => covers_refl _

theorem covers_whole_extract {signed : Bool} {bits more : Nat}
    (narrow : wholeWidth? f.datatype = some (signed, bits))
    (wide : wholeWidth? g.datatype = some (signed, more)) (grows : bits ≤ more) (value : Json) :
    Covers (extractValue f value) (extractValue g value) := by
  obtain ⟨extracts, sign, _⟩ := extract_whole narrow value
  obtain ⟨extracts', sign', _⟩ := extract_whole wide value
  rw [extracts, extracts', extractInteger, extractInteger, sign, sign']
  exact covers_bind (covers_integer signed value) fun n =>
    covers_bind (covers_narrow grows n) fun m =>
      covers_bind (covers_digits looser _) fun _ => covers_refl _

omit looser in
theorem covers_bit_extract (value : Json) : Covers (extractBit f value) (extractBit g value) :=
  covers_of_verdicts (bit_extract_verdict f value) (bit_extract_verdict g value) fun _ accepts => by
    cases accepts with
    | bit bit => exact .bit bit

/-- The labels at the front keep their indexes. -/
theorem covers_index_extract (labelled : f.labels.isSome = true) (value : Json) :
    Covers (extractIndex f value) (extractIndex g value) := by
  have listing := (rel_some_iff looser.labels).mp labelled
  refine covers_of_verdicts (index_extract_verdict labelled value)
    (index_extract_verdict listing value) fun v accepts => ?_
  cases accepts with
  | index narrow listed label =>
      have appended := looser.labels
      rw [listed] at appended
      cases known : g.labels with
      | none =>
          rw [known] at listing
          cases listing
      | some labels =>
          rw [known] at appended
          cases appended with
          | some front =>
              have longer := front.length_le
              exact .index narrow known (by omega)

theorem covers_member_extract (listed : f.members.isSome = true) (value : Json) :
    Covers (extractMember f value) (extractMember g value) := by
  have listing := (rel_some_iff looser.members).mp listed
  refine covers_of_verdicts (member_extract_verdict listed value)
    (member_extract_verdict listing value) fun v accepts => ?_
  cases accepts with
  | member listed member =>
      have enlarged := looser.members
      rw [listed] at enlarged
      cases known : g.members with
      | none =>
          rw [known] at listing
          cases listing
      | some members =>
          rw [known] at enlarged
          cases enlarged with
          | some keeps => exact .member known (keeps _ member)

/-- One case for each datatype. -/
theorem covers_value (consistent : f.Consistent) (value : Json) :
    Covers (extractValue f value) (extractValue g value) := by
  obtain ⟨enums, sets⟩ := consistent
  have widened := looser.datatype
  generalize kind : f.datatype = d, kind' : g.datatype = d' at widened
  cases widened with
  | whole narrow wide grows =>
      rw [← kind] at narrow
      rw [← kind'] at wide
      exact covers_whole_extract looser narrow wide grows value
  | same =>
      unfold extractValue
      rw [kind, kind']
      have whole {signed : Bool} {bits : Nat} (width : wholeWidth? d = some (signed, bits)) :
          Covers (extractValue f value) (extractValue g value) :=
        covers_whole_extract looser (kind ▸ width) (kind' ▸ width) le_rfl value
      unfold extractValue at whole
      rw [kind, kind'] at whole
      cases d with
      | string => exact covers_text_extract looser value
      | byteString => exact covers_bytes_extract looser value
      | json =>
          cases value with
          | object members => exact covers_refl _
          | _ => exact covers_reject f .shape _
      | boolean =>
          cases value with
          | bool b => exact covers_refl _
          | _ => exact covers_reject f .shape _
      | float64 => exact covers_double_extract looser value
      | float32 => exact covers_single_extract looser value
      | bit => exact covers_bit_extract value
      | enum => exact covers_index_extract looser (enums.mp kind) value
      | set => exact covers_member_extract looser (sets.mp kind) value
      | _ => exact whole rfl

/-- A looser field takes what a field takes, as the same value. -/
theorem extract_looser {value : Json} {typed : TypedValue}
    (extracted : f.extract value = .ok typed) :
    typed.datatype = f.datatype ∧ g.extract value = .ok ⟨g.datatype, typed.value⟩ := by
  obtain ⟨checked, v, passed, rfl⟩ := (extract_ok_iff f value typed).mp extracted
  have consistent := f.checkConsistency_eq_ok_iff.mp checked
  have checked' := g.checkConsistency_eq_ok_iff.mpr (looser_consistent looser consistent)
  refine ⟨rfl, (extract_ok_iff g value _).mpr ⟨checked', v, ?_, rfl⟩⟩
  exact covers_value looser consistent value v passed

end Checks

/-! Records -/

/-- The entry that a looser table has for the same field: the same value, with the datatype that
the field has there. -/
structure Retagged (fields fields' : List Field) (entry entry' : String × TypedValue) : Prop where
  key : entry'.1 = entry.1
  value : entry'.2.value = entry.2.value
  tag : ∃ f ∈ fields, ∃ g ∈ fields', f.title = entry.1 ∧ g.title = entry.1 ∧
    entry.2.datatype = f.datatype ∧ entry'.2.datatype = g.datatype

theorem retagged_cons {fields fields' : List Field} {entry entry' : String × TypedValue}
    (f g : Field) (retagged : Retagged fields fields' entry entry') :
    Retagged (f :: fields) (g :: fields') entry entry' := by
  obtain ⟨h, among, h', among', tag⟩ := retagged.tag
  exact ⟨retagged.key, retagged.value,
    h, List.mem_cons_of_mem f among, h', List.mem_cons_of_mem g among', tag⟩

section Names

variable [Pattern.CharacterNames]

theorem collects_looser {isInput : Bool} {stored : String → Option Json}
    {fields fields' : List Field} {found : List (String × TypedValue)}
    (looser : List.Forall₂ Looser fields fields')
    (collects : Collects isInput stored fields found) :
    ∃ found', Collects isInput stored fields' found' ∧
      List.Forall₂ (Retagged fields fields') found found' := by
  induction collects generalizing fields' with
  | done =>
      cases looser
      exact ⟨[], .done, .nil⟩
  | @takes f rest value typed others present extracted _ ih =>
      cases looser with
      | @cons _ g _ rest' first others' =>
          obtain ⟨more, later, kept⟩ := ih others'
          obtain ⟨tag, again⟩ := extract_looser first extracted
          rw [← first.title] at present
          refine ⟨_, .takes present again later, .cons ?_ ?_⟩
          · exact ⟨first.title, rfl, f, by simp, g, by simp, rfl, first.title, tag, rfl⟩
          · exact kept.imp fun _ _ => retagged_cons f g
  | @leaves f rest others absent excuse _ ih =>
      cases looser with
      | @cons _ g _ rest' first others' =>
          obtain ⟨more, later, kept⟩ := ih others'
          rw [← first.title] at absent
          refine ⟨more, .leaves absent (excused_looser first excuse) later, ?_⟩
          exact kept.imp fun _ _ => retagged_cons f g

/-- A record that a table takes is taken by every table with looser fields: under the same keys in
the same order, with the same values, each with the datatype that its field has there. -/
theorem validate_loosened {t t' : Table}
    (looser : List.Forall₂ Looser t.fields.entries t'.fields.entries) (payload : Json)
    (isInput : Bool) (found : List (String × TypedValue))
    (accepted : t.validate payload isInput = .ok found) :
    ∃ found', t'.validate payload isInput = .ok found' ∧
      List.Forall₂ (Retagged t.fields.entries t'.fields.entries) found found' := by
  rw [Table.validate] at accepted
  cases parts : fragments? payload with
  | none =>
      rw [parts] at accepted
      cases accepted
  | some fragments =>
      rw [parts] at accepted
      have collects := (validate_fields_ok_iff t.fields.entries found).mp accepted
      obtain ⟨found', again, kept⟩ := collects_looser looser collects
      refine ⟨found', ?_, kept⟩
      rw [Table.validate, parts]
      exact (validate_fields_ok_iff t'.fields.entries found').mpr again

end Names

open scoped Pattern.Unnamed

def stepField : Field :=
  { title := "step", datatype := .signed16, characters := some 2, required := true }

def codeField : Field :=
  { title := "code", characters := some 4, regex := some "UP", required := true }

def modeField : Field := { title := "mode", datatype := .enum, labels := some ["slow"] }

def stepTable : Table := { title := "steps", fields := .ofList [stepField, codeField, modeField] }

/-- More bits and no limit of digits, longer codes of any letters that may be left out, one more
label. -/
def freeStepTable : Table where
  title := "steps"
  fields := .ofList [
    { stepField with datatype := .signed32, characters := none },
    { codeField with characters := some 6, regex := none, required := false },
    { modeField with labels := some ["slow", "fast"] }]

def stepRecord : List (String × TypedValue) := [
  ("step", ⟨.signed16, .integer (-20)⟩),
  ("code", ⟨.string, .text "UP"⟩),
  ("mode", ⟨.enum, .integer 0⟩)]

def stepPayload : Json := .array [
  .object [("mode", .integer 0), ("code", .string "UP")],
  .object [("step", .integer (-20)), ("code", .string "down")]]

theorem validate_loosened_steps :
    stepTable.validate stepPayload true = .ok stepRecord ∧
    ∃ found, freeStepTable.validate stepPayload true = .ok found ∧
      List.Forall₂ (Retagged stepTable.fields.entries freeStepTable.fields.entries)
        stepRecord found := by
  have accepted : stepTable.validate stepPayload true = .ok stepRecord := by rfl
  have step : Looser stepField { stepField with datatype := .signed32, characters := none } :=
    ⟨rfl, .whole rfl rfl (by decide), by simp [Raised], by simp [Raised, stepField],
      by simp [Raised, stepField], .inl rfl, .none, .none, id, id⟩
  have code : Looser codeField
      { codeField with characters := some 6, regex := none, required := false } :=
    ⟨rfl, .same _, by simp [Raised, codeField], by simp [Raised, codeField],
      by simp [Raised, codeField], .inr rfl, .none, .none, by simp, id⟩
  have mode : Looser modeField { modeField with labels := some ["slow", "fast"] } :=
    ⟨rfl, .same _, by simp [Raised, modeField], by simp [Raised, modeField],
      by simp [Raised, modeField], .inl rfl, .some (by decide), .none, id, id⟩
  have looser : List.Forall₂ Looser stepTable.fields.entries freeStepTable.fields.entries :=
    .cons step (.cons code (.cons mode .nil))
  exact ⟨accepted, validate_loosened looser stepPayload true stepRecord accepted⟩

end SchemaCompiler.Validation
