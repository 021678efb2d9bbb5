import SchemaCompiler.Proofs.TypeScript.Interfaces
import SchemaCompiler.Proofs.TypeScript.MemberNames

/-!
Enums of a file. Every list of labels among the enum fields of a table is declared once, where it
is first used, and the fields that have it refer to that declaration. Its name is made from the
words of a title alone, so titles that differ in nothing else name two declarations alike.
-/

namespace SchemaCompiler.TypeScript

open Outcome Validation

/-! Lists of labels -/

/-- The labels of a field that is an enum. -/
def enumLabels? (f : Field) : Option (List String) :=
  if f.datatype == .enum then f.labels else none

/-- The lists of labels of the enum fields, each at its first use. -/
def labelLists (fields : List Field) : List (List String) :=
  (fields.filterMap enumLabels?).eraseDups

/-- The field that the enum of a list of labels is named for. -/
def namesake? (fields : List Field) (labels : List String) : Option Field :=
  fields.find? (enumLabels? · == some labels)

/-- Two lists of labels are not named for titles of the same words. -/
def TitlesApart (fields : List Field) : Prop :=
  ∀ labels other f g, namesake? fields labels = some f → namesake? fields other = some g →
    Naming.pascalCase f.title = Naming.pascalCase g.title → labels = other

theorem enum_labels_some {f : Field} {labels : List String} (isEnum : f.datatype = .enum)
    (listed : f.labels = some labels) : enumLabels? f = some labels := by
  simp [enumLabels?, isEnum, listed]

theorem enum_labels_none {f : Field} (other : f.datatype ≠ .enum) : enumLabels? f = none := by
  simp [enumLabels?, other]

theorem mem_label_lists {fields : List Field} {labels : List String} :
    labels ∈ labelLists fields ↔ ∃ f ∈ fields, enumLabels? f = some labels := by
  simp [labelLists, List.mem_eraseDups]

theorem label_lists_next {done : List Field} {f : Field} {labels : List String}
    (found : enumLabels? f = some labels) :
    labelLists (done ++ [f]) =
      if labels ∈ labelLists done then labelLists done else labelLists done ++ [labels] := by
  have one : [f].filterMap enumLabels? = [labels] := by simp [found]
  rw [labelLists, labelLists, List.filterMap_append, one, List.eraseDups_append]
  generalize done.filterMap enumLabels? = earlier
  by_cases known : labels ∈ earlier
  · simp [List.removeAll, List.mem_eraseDups, known]
  · simp [List.removeAll, List.mem_eraseDups, List.eraseDups_cons, known]

theorem label_lists_other {done : List Field} {f : Field} (none : enumLabels? f = none) :
    labelLists (done ++ [f]) = labelLists done := by
  simp [labelLists, List.filterMap_append, none]

theorem namesake_labels {fields : List Field} {labels : List String} {f : Field}
    (named : namesake? fields labels = some f) : f ∈ fields ∧ enumLabels? f = some labels := by
  rw [namesake?] at named
  exact ⟨List.mem_of_find?_eq_some named, by simpa using List.find?_some named⟩

theorem namesake_kept {done : List Field} {labels : List String} {f : Field}
    (named : namesake? done labels = some f) (more : List Field) :
    namesake? (done ++ more) labels = some f := by
  rw [namesake?, List.find?_append]
  exact congrArg (Option.or · _) named

theorem namesake_new {done : List Field} {f : Field} {labels : List String}
    (found : enumLabels? f = some labels) (unknown : labels ∉ labelLists done) :
    namesake? (done ++ [f]) labels = some f := by
  have before : namesake? done labels = none := by
    rw [namesake?, List.find?_eq_none]
    intro g member same
    exact unknown (mem_label_lists.mpr ⟨g, member, eq_of_beq same⟩)
  rw [namesake?, List.find?_append]
  refine (congrArg (Option.or · _) before).trans ?_
  simp [found]

/-! What is registered -/

/-- The registry of the fields so far: their lists of labels, each named for its first field. -/
structure Registered (table : String) (fields : List Field) (registry : Registry) : Prop where
  labels : registry.map Prod.fst = labelLists fields
  distinct : (registry.map Prod.fst).Nodup
  named : ∀ entry ∈ registry, ∃ f, namesake? fields entry.1 = some f ∧
    enumName table f.title = .ok entry.2

theorem registered_start (table : String) : Registered table [] [] :=
  ⟨rfl, List.nodup_nil, by simp⟩

/-- A field keeps the registry in order, whether it adds an enum or not. -/
theorem registered_step {table : String} {done : List Field} {registry later : Registry}
    {f : Field} {type : String} (registered : Registered table done registry)
    (typed : typeOf table registry f = .ok (type, later)) :
    Registered table (done ++ [f]) later := by
  have named_later : ∀ entry ∈ registry, ∃ g, namesake? (done ++ [f]) entry.1 = some g ∧
      enumName table g.title = .ok entry.2 := by
    intro entry member
    obtain ⟨g, first, made⟩ := registered.named entry member
    exact ⟨g, namesake_kept first [f], made⟩
  rcases type_of_cases typed with
    ⟨isEnum, labels, listed, known, rfl⟩ | ⟨isEnum, made, labels, listed, unknown, rfl⟩ |
    ⟨other, _, rfl⟩
  · have among : labels ∈ labelLists done := by
      rw [← registered.labels]
      obtain ⟨front, back, split, _⟩ := List.lookup_eq_some_iff.mp known
      simp [split]
    refine ⟨?_, registered.distinct, named_later⟩
    rw [label_lists_next (enum_labels_some isEnum listed), if_pos among, registered.labels]
  · have fresh : labels ∉ registry.map Prod.fst := by
      intro member
      obtain ⟨name, present⟩ := Association.lookup_present member
      rw [unknown] at present
      cases present
    have found := enum_labels_some isEnum listed
    have absent : labels ∉ labelLists done := registered.labels ▸ fresh
    constructor
    · rw [List.map_append, registered.labels, label_lists_next found, if_neg absent]
      rfl
    · rw [List.map_append]
      exact List.nodup_append.mpr ⟨registered.distinct, by simp, by
        intro earlier member last new
        rw [List.mem_singleton.mp new]
        rintro rfl
        exact fresh member⟩
    · intro entry member
      rcases List.mem_append.mp member with earlier | last
      · exact named_later entry earlier
      · rw [List.mem_singleton.mp last]
        exact ⟨f, namesake_new found absent, made⟩
  · refine ⟨?_, registered.distinct, named_later⟩
    rw [label_lists_other (enum_labels_none other), registered.labels]

theorem registered_run {table : String} {done fields : List Field} {registry last : Registry}
    {found : List Property} (registered : Registered table done registry)
    (ran : properties table registry fields = .ok (found, last)) :
    Registered table (done ++ fields) last := by
  induction fields generalizing done registry found with
  | nil =>
      cases ran
      rwa [List.append_nil]
  | cons f rest ih =>
      simp only [properties, bind_ok_iff] at ran
      obtain ⟨⟨type, next⟩, typed, ⟨others, final⟩, later, same⟩ := ran
      cases same
      have whole := ih (registered_step registered typed) later
      rwa [List.append_assoc] at whole

/-! What is declared -/

theorem declaration_ok {entry : List String × String} {e : EnumDeclaration}
    (declared : declaration entry = .ok e) : e = ⟨entry.2, entry.1.map memberOf⟩ := by
  simp only [declaration, bind_ok_iff] at declared
  obtain ⟨members, listed, same⟩ := declared
  cases same
  rw [enum_members_ok listed]

theorem declarations_ok {registry : Registry} {enums : List EnumDeclaration}
    (declared : registry.mapM declaration = .ok enums) :
    enums = registry.map fun entry => ⟨entry.2, entry.1.map memberOf⟩ := by
  induction registry generalizing enums with
  | nil =>
      cases declared
      rfl
  | cons entry rest ih =>
      simp only [List.mapM_cons, bind_ok_iff] at declared
      obtain ⟨e, first, others, later, same⟩ := declared
      cases same
      rw [List.map_cons, declaration_ok first, ih later]

/-! Names -/

/-- Enums of one table are named alike if their titles have the same words. -/
theorem enum_name_eq_iff {table title other name otherName : String}
    (made : enumName table title = .ok name) (otherMade : enumName table other = .ok otherName) :
    name = otherName ↔ Naming.pascalCase title = Naming.pascalCase other := by
  simp only [enumName, bind_ok_iff] at made otherMade
  obtain ⟨front, titled, back, worded, same⟩ := made
  obtain ⟨otherFront, otherTitled, otherBack, otherWorded, otherSame⟩ := otherMade
  cases same
  cases otherSame
  cases titled.symm.trans otherTitled
  rw [worded, otherWorded, String.append_left_inj, String.append_right_inj, Except.ok.injEq]

theorem names_distinct_iff {table : String} {fields : List Field} {registry : Registry}
    (registered : Registered table fields registry) :
    (registry.map Prod.snd).Nodup ↔ TitlesApart fields := by
  rw [List.nodup_map_iff_inj_on (List.Nodup.of_map Prod.fst registered.distinct)]
  constructor
  · intro injective labels other f g first second alike
    have entry_of {labels : List String} {f : Field} (named : namesake? fields labels = some f) :
        ∃ name, (labels, name) ∈ registry ∧ enumName table f.title = .ok name := by
      have among : labels ∈ registry.map Prod.fst := by
        rw [registered.labels, mem_label_lists]
        exact ⟨f, namesake_labels named⟩
      obtain ⟨⟨_, name⟩, member, rfl⟩ := List.mem_map.mp among
      obtain ⟨g, other, made⟩ := registered.named _ member
      cases named.symm.trans other
      exact ⟨name, member, made⟩
    obtain ⟨name, member, made⟩ := entry_of first
    obtain ⟨otherName, otherMember, otherMade⟩ := entry_of second
    have same := (enum_name_eq_iff made otherMade).mpr alike
    exact congrArg Prod.fst (injective _ member _ otherMember same)
  · intro apart entry member other otherMember same
    obtain ⟨f, first, made⟩ := registered.named entry member
    obtain ⟨g, second, otherMade⟩ := registered.named other otherMember
    have alike := (enum_name_eq_iff made otherMade).mp same
    exact Prod.ext (apart _ _ f g first second alike) same

/-! References -/

/-- The lines of an interface whose properties have the given types. -/
def interfaceLines (isInput : Bool) (fields : List Field) (types : List String) : List String :=
  List.zipWith (fun f type => propertyLine (quoteName f.title) type (excused isInput f))
    fields types

theorem lines_typed {isInput : Bool} {mark : Property → Bool}
    (marks : ∀ f type, mark (property f type) = excused isInput f) {registry : Registry}
    {fields : List Field} {found : List Property}
    (typed : List.Forall₂ (fun f p => ∃ type, p = property f type ∧ Typed registry f type)
      fields found) :
    linesOf mark found = interfaceLines isInput fields (found.map Property.type) := by
  induction typed with
  | nil => rfl
  | cons first _ ih =>
      obtain ⟨type, rfl, _⟩ := first
      rw [linesOf, List.map_cons, marks]
      exact congrArg (List.cons _) ih

/-- A declaration stands alone under its name. -/
def Sole (enums : List EnumDeclaration) (e : EnumDeclaration) : Prop :=
  enums.filter (·.name == e.name) = [e]

theorem sole_of_distinct {enums : List EnumDeclaration} {e : EnumDeclaration}
    (distinct : (enums.map EnumDeclaration.name).Nodup) (member : e ∈ enums) : Sole enums e := by
  obtain ⟨front, back, rfl⟩ := List.append_of_mem member
  rw [List.map_append, List.nodup_append, List.map_cons, List.nodup_cons] at distinct
  obtain ⟨_, ⟨behind, _⟩, before⟩ := distinct
  have others (part : List EnumDeclaration) (apart : e.name ∉ part.map EnumDeclaration.name) :
      part.filter (·.name == e.name) = [] := by
    rw [List.filter_eq_nil_iff]
    intro other among same
    exact apart (eq_of_beq same ▸ List.mem_map_of_mem among)
  have front_apart : e.name ∉ front.map EnumDeclaration.name := fun among =>
    before _ among _ (by simp) rfl
  simp [Sole, List.filter_append, others front front_apart, others back behind]

/-! Indexes -/

theorem unsigned_contains {bits n : Nat} (below : n < 2 ^ bits) :
    (IntegerRange.unsigned bits).contains n = true := by
  rw [contains_iff]
  constructor
  · exact Int.natCast_nonneg n
  · change (n : Int) ≤ (Nat.pow 2 bits : Nat) - 1
    have cast : (n : Int) < (2 ^ bits : Nat) := Int.ofNat_lt.mpr below
    change (n : Int) ≤ (2 ^ bits : Nat) - 1
    omega

theorem index_taken_iff {f : Field} {labels : List String} (listed : f.labels = some labels)
    (value : Json) :
    (∃ v, extractIndex f value = .ok v) ↔
      ∃ n : Nat, n < labels.length ∧ n < 2 ^ 32 ∧ value = .integer n := by
  constructor
  · rintro ⟨v, accepted⟩
    simp only [extractIndex, bind_ok_iff] at accepted
    obtain ⟨n, converted, m, narrowed, passed⟩ := accepted
    obtain ⟨rfl, within⟩ := narrow_to_ok narrowed
    obtain ⟨low, high⟩ := (contains_iff _ _).mp within
    change 0 ≤ m at low
    change m ≤ 2 ^ 32 - 1 at high
    rw [listed] at passed
    split at passed
    · next none => cases none
    · next found =>
      cases found
      split at passed
      · cases passed
      · next below =>
        refine ⟨m.toNat, by omega, by omega, ?_⟩
        rw [integer_of_ok converted, Int.toNat_of_nonneg low]
  · rintro ⟨n, below, narrow_, rfl⟩
    have wide : n < 2 ^ 64 := Nat.lt_of_lt_of_le narrow_ (by decide)
    have converted : integerOf f false (.integer n) = .ok n := by
      simp [integerOf, toInteger, unsigned_contains wide]
    have narrowed : narrowTo f (.unsigned 32) n = .ok n := by
      simp [narrowTo, narrow, unsigned_contains narrow_]
    refine ⟨.integer n, ?_⟩
    simp [extractIndex, converted, narrowed, listed, below, bind, Except.bind, pure, Except.pure]

/-- What an enum field accepts: the indexes of its labels, as far as they have 32 bits. With
members of a set beside its labels it accepts nothing. -/
theorem enum_accepts_iff [Pattern.CharacterNames] {f : Field} {labels : List String}
    (isEnum : f.datatype = .enum) (listed : f.labels = some labels) (value : Json) :
    (∃ v, f.extract value = .ok v) ↔
      f.members = none ∧ ∃ n : Nat, n < labels.length ∧ n < 2 ^ 32 ∧ value = .integer n := by
  have consistent : f.checkConsistency = .ok () ↔ f.members = none := by
    rw [Field.checkConsistency_eq_ok_iff, Field.Consistent, isEnum, listed]
    cases f.members with
    | none => simp
    | some members => simp
  rw [← index_taken_iff listed, ← consistent]
  have indexed : extractValue f value = extractIndex f value := by
    unfold extractValue
    rw [isEnum]
  constructor
  · rintro ⟨typed, accepted⟩
    obtain ⟨checked, v, taken, _⟩ := (extract_ok_iff f value typed).mp accepted
    exact ⟨checked, v, indexed ▸ taken⟩
  · rintro ⟨checked, v, taken⟩
    exact ⟨_, (extract_ok_iff f value _).mpr ⟨checked, v, indexed ▸ taken, rfl⟩⟩

/-! Files -/

section Names

variable [Pattern.CharacterNames]

/-- An enum field refers to a declaration of its type. The members are its labels in order, and
it accepts their indexes, as far as they have 32 bits and no set is attached to it as well. -/
structure Refers (enums : List EnumDeclaration) (f : Field) (type : String)
    (e : EnumDeclaration) : Prop where
  declared : e ∈ enums
  named : e.name = type
  members : ∃ labels, f.labels = some labels ∧ e.members = labels.map memberOf
  accepts : ∀ value, (∃ v, f.extract value = .ok v) ↔
    f.members = none ∧ ∃ n : Nat, n < e.members.length ∧ n < 2 ^ 32 ∧ value = .integer n

/-- No two declarations have one name, and every enum field refers to one that has its name for
itself. -/
structure Resolve (fields : List Field) (types : List String)
    (enums : List EnumDeclaration) : Prop where
  distinct : (enums.map EnumDeclaration.name).Nodup
  sole : ∀ f type, (f, type) ∈ fields.zip types → f.datatype = .enum →
    ∃ e, Refers enums f type e ∧ Sole enums e

theorem refers_of_typed {registry : Registry} {enums : List EnumDeclaration}
    (declared : registry.mapM declaration = .ok enums) {f : Field} {type : String}
    (typed : Typed registry f type) (isEnum : f.datatype = .enum) :
    ∃ e, Refers enums f type e := by
  cases typed with
  | plain other => exact absurd isEnum other
  | @enum _ labels _ listed known =>
      refine ⟨⟨type, labels.map memberOf⟩, ?_, rfl, ⟨labels, listed, rfl⟩, ?_⟩
      · rw [declarations_ok declared]
        exact List.mem_map_of_mem known
      · intro value
        rw [List.length_map]
        exact enum_accepts_iff isEnum listed value

/-- A table that has a file declares an enum for every list of labels among its enum fields, in
the order of first use, and its enum fields refer to them in both interfaces. Each declaration has
its name for itself if and only if no two of them are named for titles of the same words. -/
theorem enums_resolve {t : Table} {text : String} (rendered : renderTable t = .ok text) :
    ∃ interface types enums,
      text = fileText t.title interface (interfaceLines false t.fields.entries types)
        (interfaceLines true t.fields.entries types) enums ∧
      types.length = t.fields.entries.length ∧
      enums.map EnumDeclaration.members =
        (labelLists t.fields.entries).map (List.map memberOf) ∧
      (∀ f type, (f, type) ∈ t.fields.entries.zip types → f.datatype = .enum →
        ∃ e, Refers enums f type e) ∧
      (Resolve t.fields.entries types enums ↔ TitlesApart t.fields.entries) := by
  obtain ⟨m, made, rfl⟩ := (map_ok_iff _ _ _).mp rendered
  obtain ⟨registry, ran, declared, title⟩ := module_of_ok made
  obtain ⟨_, _, typed⟩ := properties_run ran
  have registered : Registered t.title t.fields.entries registry :=
    registered_run (registered_start t.title) ran
  have stored : linesOf Property.storedOptional m.properties =
      interfaceLines false t.fields.entries (m.properties.map Property.type) :=
    lines_typed (fun f type => by simp [property, excused]) typed
  have input : linesOf Property.inputOptional m.properties =
      interfaceLines true t.fields.entries (m.properties.map Property.type) :=
    lines_typed (fun f type => by simp [property, excused]) typed
  have refers : ∀ f type, (f, type) ∈ t.fields.entries.zip (m.properties.map Property.type) →
      f.datatype = .enum → ∃ e, Refers m.enums f type e := by
    intro f type member isEnum
    rw [List.zip_map_right] at member
    obtain ⟨⟨g, p⟩, among, same⟩ := List.mem_map.mp member
    cases same
    obtain ⟨type, rfl, typed⟩ := List.forall₂_zip typed among
    exact refers_of_typed declared typed isEnum
  refine ⟨m.interface, m.properties.map Property.type, m.enums, ?_, ?_, ?_, refers, ?_⟩
  · rw [← stored, ← input, ← title]
    rfl
  · rw [List.length_map, typed.length_eq]
  · rw [declarations_ok declared, ← registered.labels, List.map_map, List.map_map]
    rfl
  · have names := names_distinct_iff registered
    rw [← declarations_named declared] at names
    rw [← names]
    constructor
    · exact Resolve.distinct
    · intro distinct
      refine ⟨distinct, fun f type member isEnum => ?_⟩
      obtain ⟨e, referred⟩ := refers f type member isEnum
      exact ⟨e, referred, sole_of_distinct distinct referred.declared⟩

end Names

theorem titles_apart_of_distinct {fields : List Field}
    (distinct : (fields.map fun f => Naming.pascalCase f.title).Nodup) : TitlesApart fields := by
  intro labels other f g first second alike
  obtain ⟨member, listed⟩ := namesake_labels first
  obtain ⟨otherMember, otherListed⟩ := namesake_labels second
  have same : f = g := List.inj_on_of_nodup_map distinct member otherMember alike
  rw [same, otherListed] at listed
  exact (Option.some.inj listed).symm

open scoped Pattern.Unnamed

def ticketFields : List Field := [
  { title := "subject", required := true },
  { title := "priority", datatype := .enum, labels := some ["low", "1"] },
  { title := "urgency", datatype := .enum, labels := some ["low", "1"] },
  { title := "state", datatype := .enum, required := true, labels := some ["new", "in progress"] }]

def ticketTable : Table where
  title := "support_ticket"
  fields := .ofList ticketFields

/-- Two fields share an enum, and a third one has its own. -/
theorem enums_resolve_tickets :
    ∃ text, renderTable ticketTable = .ok text ∧ ∃ interface types enums,
      text = fileText "support_ticket" interface (interfaceLines false ticketFields types)
        (interfaceLines true ticketFields types) enums ∧
      enums.map EnumDeclaration.members = [["low", "_1"], ["new", "\"in progress\""]] ∧
      Resolve ticketFields types enums := by
  have rendered : ∃ text, renderTable ticketTable = .ok text := ⟨_, rfl⟩
  obtain ⟨text, rendered⟩ := rendered
  obtain ⟨interface, types, enums, written, _, members, _, resolve⟩ := enums_resolve rendered
  refine ⟨text, rendered, interface, types, enums, written, members.trans (by decide +kernel), ?_⟩
  exact resolve.mpr (titles_apart_of_distinct (by decide +kernel))

def bootTable : Table where
  title := "boots"
  fields := .ofList [
    { title := "upper_sole", datatype := .enum, labels := some ["rubber"] },
    { title := "upper-sole", datatype := .enum, labels := some ["leather", "cork"] }]

/-- The titles differ in a mark between their words only, so that two enums have one name. -/
theorem enum_names_collide :
    ¬ TitlesApart bootTable.fields.entries ∧ ∃ m, moduleOf bootTable = .ok m ∧
      renderTable bootTable = .ok m.render ∧
      m.properties.map Property.type = ["BootsUpperSoleEnum", "BootsUpperSoleEnum"] ∧
      m.enums = [⟨"BootsUpperSoleEnum", ["rubber"]⟩,
        ⟨"BootsUpperSoleEnum", ["leather", "cork"]⟩] := by
  constructor
  · intro apart
    have same := apart ["rubber"] ["leather", "cork"] _ _ rfl rfl (by decide +kernel)
    exact absurd same (by decide)
  · exact ⟨_, rfl, rfl, rfl, rfl⟩

end SchemaCompiler.TypeScript
