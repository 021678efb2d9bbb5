import SchemaCompiler.Proofs.Ddl.Invariant
import SchemaCompiler.Proofs.Json.Storable
import SchemaCompiler.Proofs.Snapshot.Answer

/-!
Databases that were read, from a dump or from a snapshot, can be stored: their fields are
consistent, and what is written of them can be read.
-/

namespace SchemaCompiler.Snapshot

open Json Decimal Outcome

/-- What is written of a database is read back, if its fields have titles. -/
structure Reloads (db : Stored.Database) : Prop where
  consistent : ∀ t ∈ db.tables.entries, ∀ f ∈ t.fields.entries, f.checkConsistency = .ok ()
  storable : Storable (ofDatabase db)

/-! Fields of a dump -/

theorem read_length_short {line span : List Char} {size : Nat}
    (read : Ddl.readLength line span = .ok size) : digitLength size ≤ maxIntegerDigits := by
  obtain ⟨inner, _, behind⟩ := (bind_ok_iff _ _ _).mp read
  simp only at behind
  split at behind
  · cases behind
  · split at behind
    · cases behind
    · next short =>
      cases behind
      exact Text.digit_length_value (by decide) (Nat.le_of_not_lt short)

/-- Only a type with a length limits the characters. -/
theorem read_type_characters {title descriptor : String} {span line : List Char} {grouped : Bool}
    {flags : List String} {f : Field}
    (read : Ddl.readType title descriptor span grouped flags line = .ok f) {n : Int}
    (limited : f.characters = some n) : digitLength n.natAbs ≤ maxIntegerDigits := by
  rw [Ddl.readType] at read
  split at read
  · cases read
    cases limited
  split at read
  · obtain ⟨size, measured, same⟩ := (bind_ok_iff _ _ _).mp read
    cases same
    cases limited
    exact read_length_short measured
  split at read
  · obtain ⟨found, _, same⟩ := (bind_ok_iff _ _ _).mp read
    cases same
    cases limited
  split at read
  · obtain ⟨found, _, same⟩ := (bind_ok_iff _ _ _).mp read
    cases same
    cases limited
  split at read
  · cases read
    cases limited
  split at read
  · cases read
    cases limited
  · cases read

theorem read_column_convertible {name : Ddl.Token} {rest : List Ddl.Token} {line : List Char}
    {f : Field} (read : Ddl.readColumn name rest line = .ok f) : Convertible f := by
  have sound := Ddl.read_column_sound read
  have characters : ∀ n, f.characters = some n → digitLength n.natAbs ≤ maxIntegerDigits := by
    obtain ⟨_, _, _, _, _, typed, _, _, _, determined, rfl⟩ := Ddl.read_column_typed read
    exact fun n limited => read_type_characters determined limited
  have eight : digitLength (64 : Int).natAbs ≤ maxIntegerDigits := by decide
  simp only [Convertible, List.mem_cons, List.not_mem_nil, or_false, forall_eq_or_imp, forall_eq]
  refine ⟨?_, characters, ?_⟩
  · intro n bytes
    rw [sound.bytes] at bytes
    split at bytes
    · cases bytes
      exact eight
    · cases bytes
  · intro n decimals
    rw [sound.decimals] at decimals
    cases decimals

theorem convertible_last : Ddl.Lasting fun f => f.checkConsistency = .ok () ∧ Convertible f :=
  ⟨fun read => ⟨(Ddl.read_column_sound read).consistent, read_column_convertible read⟩,
    fun kept _ _ _ _ => kept⟩

theorem parsed_reloads {schema title : String} {db : Database}
    (parsed : Ddl.parseSchema schema title = .ok db) : Reloads (Stored.ofDatabase db) := by
  have each := Ddl.parsed_fields convertible_last parsed
  refine ⟨?_, storable_of_database fun t member f within => (each t member f within).2⟩
  rw [of_tables]
  intro t member
  rw [of_fields]
  exact fun f within => (of_field_check f).trans (each t member f within).1

/-! Fields of a snapshot -/

section Parts

variable {members : List (WideText × Json)} {key : String}

theorem member_storable (storable : StorableMembers members) {value : Json}
    (found : Json.member? key members = some value) : Storable value := by
  obtain ⟨front, back, rfl, _⟩ := List.lookup_eq_some_iff.mp found
  exact (storable_members_iff _).mp storable (key, value) (by simp)

theorem part_storable (storable : StorableMembers members) {default : Json}
    (plain : Storable default) : Storable ((Json.member? key members).getD default) := by
  cases found : Json.member? key members with
  | none => exact plain
  | some value => exact member_storable storable found

theorem value_storable (storable : StorableMembers members) : Storable (valueAt members key) :=
  part_storable storable trivial

theorem flag_storable (storable : StorableMembers members) : Storable (flagAt members key) :=
  part_storable storable trivial

end Parts

theorem required_storable {key : String} {value part : Json} (storable : Storable value)
    (found : required key value = .ok part) : Storable part := by
  unfold required at found
  split at found
  · split at found
    · next present =>
      cases found
      rw [Storable] at storable
      exact member_storable storable.2 present
    · cases found
  · cases found

/-- The items of a list are storable with it: they are its own, or strings. -/
theorem elements_storable {value : Json} (storable : Storable value) {items : List Json}
    (listed : elements value = .ok items) : ∀ item ∈ items, Storable item := by
  cases value with
  | array own =>
      cases listed
      exact (storable_items_iff _).mp (by simpa [Storable] using storable)
  | object members =>
      cases listed
      intro item member
      obtain ⟨_, _, rfl⟩ := List.mem_map.mp member
      trivial
  | string s =>
      cases listed
      intro item member
      obtain ⟨_, _, rfl⟩ := List.mem_map.mp member
      trivial
  | null | bool _ | integer _ | float _ => cases listed

theorem labels_storable {value : Json} (storable : Storable value) {labels : Option (List Json)}
    (listed : unlessNull elements value = .ok labels) : Storable (Stored.orNull .array labels) := by
  unfold unlessNull at listed
  split at listed
  · cases listed
    trivial
  · obtain ⟨items, gone, rfl⟩ := (map_ok_iff _ _ _).mp listed
    exact (storable_items_iff items).mpr (elements_storable storable gone)

theorem mem_of_scalars {scalars : List Scalar} {member : Scalar}
    (among : member ∈ (ScalarSet.ofList scalars).toList) : member ∈ scalars := by
  rw [ScalarSet.to_list_of_list] at among
  induction scalars with
  | nil => cases among
  | cons first rest ih =>
      rcases mem_of_mem_insertBy among with rfl | later
      · exact List.mem_cons_self
      · exact List.mem_cons_of_mem first (ih later)

theorem set_members_storable {value : Json} (storable : Storable value)
    {members : Option ScalarSet} (listed : unlessNull toSet value = .ok members) :
    Storable (Stored.orNull (fun s => .array (s.toList.map Scalar.toJson)) members) := by
  unfold unlessNull at listed
  split at listed
  · cases listed
    trivial
  · obtain ⟨s, made, rfl⟩ := (map_ok_iff _ _ _).mp listed
    simp only [toSet, bind_ok_iff] at made
    obtain ⟨items, gone, scalars, went, same⟩ := made
    cases same
    refine (storable_items_iff _).mpr (List.forall_mem_map.mpr fun member among => ?_)
    obtain ⟨item, there, named⟩ := mem_mapM went member (mem_of_scalars among)
    rw [as_scalar_ok_iff] at named
    exact named ▸ elements_storable storable gone item there

theorem to_field_storable {value : Json} (storable : Storable value) {f : Stored.Field}
    (read : toField value = .ok f) : Storable (ofField f) := by
  obtain ⟨members, rfl, holds⟩ := to_field_holds read
  have parts : StorableMembers members := by
    rw [Storable] at storable
    exact storable.2
  obtain ⟨bytes, characters, decimals⟩ := holds.bounds
  obtain ⟨regex, foreign⟩ := holds.texts
  obtain ⟨primary, unique, required, increment, generated⟩ := holds.flags
  apply storable_field
  simp only [attributes, List.forall_mem_cons, bytes, characters, decimals, regex, foreign,
    primary, unique, required, increment, generated]
  exact ⟨required_storable storable holds.title, trivial, value_storable parts,
    value_storable parts, value_storable parts, value_storable parts, flag_storable parts,
    flag_storable parts, flag_storable parts, value_storable parts, flag_storable parts,
    flag_storable parts, labels_storable (value_storable parts) holds.labels,
    set_members_storable (value_storable parts) holds.set, List.forall_mem_nil _⟩

theorem lists_storable {key : String} {value : Json} (storable : Storable value)
    {items : List Json} (lists : Lists key value items) : ∀ item ∈ items, Storable item := by
  obtain ⟨_, listed, _, found, gone⟩ := lists
  exact elements_storable (required_storable storable found) gone

theorem to_table_storable {value : Json} (storable : Storable value) {t : Stored.Table}
    (read : toTable value = .ok t) : Storable (ofTable t) := by
  obtain ⟨_, _, titled, _⟩ := to_table_built read
  refine storable_table (required_storable storable titled) fun f member => ?_
  obtain ⟨items, lists, item, among, made⟩ := table_field_read read member
  exact to_field_storable (lists_storable storable lists item among) made

theorem to_database_storable {value : Json} (storable : Storable value) {db : Stored.Database}
    (read : toDatabase value = .ok db) : Storable (ofDatabase db) := by
  obtain ⟨_, _, titled, _⟩ := to_database_built read
  refine storable_database (required_storable storable titled) fun t member => ?_
  obtain ⟨items, lists, item, among, made⟩ := database_table_read read member
  exact to_table_storable (lists_storable storable lists item among) made

theorem loaded_reloads {text : String} {db : Stored.Database} (loaded : load text = .ok db) :
    Reloads db := by
  have inOrder := load_in_order loaded
  refine ⟨fun t member f within => ((inOrder t member).2 f within).2, ?_⟩
  rw [load] at loaded
  split at loaded
  · next parsed => exact to_database_storable (read_storable parsed) loaded
  · cases loaded
  · cases loaded

/-! Databases -/

variable {db : Stored.Database}

theorem load_text_reloads (reloads : Reloads db)
    (titled : ∀ t ∈ db.tables.entries, ∀ f ∈ t.fields.entries, f.title ≠ .null) :
    load (textOf db) = .ok db.settled :=
  load_text reloads.storable fun t member f within =>
    ⟨titled t member f within, reloads.consistent t member f within⟩

theorem text_lined (reloads : Reloads db) : Lined (textOf db).toList := by
  rw [textOf, Json.indented, String.toList_ofList]
  exact write_lined _ _ reloads.storable

theorem settled_ordered (db : Stored.Database) : isOrdered db.settled = isOrdered db := by
  have fields (t : Stored.Table) :
      t.settled.fields.entries.all (fun f => f.members.all (·.isOrdered)) =
        t.fields.entries.all fun f => f.members.all (·.isOrdered) := by
    rw [Stored.table_settled_entries, List.all_map]
    rfl
  simp only [isOrdered, Stored.database_settled_entries, List.all_map, Function.comp_def, fields]

end SchemaCompiler.Snapshot
