import SchemaCompiler.Proofs.Json.Readback
import SchemaCompiler.Proofs.Outcome
import SchemaCompiler.Proofs.Schema.Database
import SchemaCompiler.Proofs.Schema.Stored
import SchemaCompiler.Snapshot

/-!
Snapshots read back. A database whose integers have no more digits than are converted is stored
as JSON that reads as it was written, so what is left is to look every attribute up again. The
consistency of the fields is the one thing that reading checks beyond the shape, and flags that
are null are the one thing that is not kept: they come back as false.
-/

namespace SchemaCompiler.Snapshot

open Json Decimal Outcome

/-! Fields -/

/-- What is written of a field. -/
def fieldMembers (f : Stored.Field) : List (WideText × Json) :=
  (attributes f).filter fun (_, value) => !value.isNull

theorem of_field_members (f : Stored.Field) : ofField f = .object (fieldMembers f) := rfl

theorem attribute_keys (f : Stored.Field) : (attributes f).map Prod.fst =
    (["title", "datatype", "bytes", "characters", "decimals", "regex", "primary", "unique",
      "required", "foreign", "increment", "generated", "enum_set", "set"] : List String).map
        .plain := rfl

theorem attributes_distinct (f : Stored.Field) : ((attributes f).map Prod.fst).Nodup := by
  rw [attribute_keys]
  decide

theorem is_null_iff (value : Json) : value.isNull = true ↔ value = .null := by
  cases value <;> simp [Json.isNull]

theorem lookup_present {entries : List (WideText × Json)}
    (distinct : (entries.map Prod.fst).Nodup) (key : WideText) :
    (entries.filter fun (_, value) => !value.isNull).lookup key =
      (entries.lookup key).filter fun value => !value.isNull := by
  induction entries with
  | nil => rfl
  | cons entry rest ih =>
      obtain ⟨other, value⟩ := entry
      obtain ⟨fresh, others⟩ := List.nodup_cons.mp distinct
      by_cases same : key = other
      · subst same
        have none : rest.lookup key = none := Association.lookup_absent fresh
        rw [none] at ih
        cases null : value.isNull <;> simp [null, ih others, Option.filter]
      · have apart : (key == other) = false := beq_false_of_ne same
        cases null : value.isNull <;> simp [null, List.lookup_cons, apart, ih others]

section Attributes

variable {f : Stored.Field} {key : String} {value : Json}

theorem member_field (listed : (attributes f).lookup (.plain key) = some value) :
    Json.member? key (fieldMembers f) = if value.isNull then none else some value := by
  rw [Json.member?, fieldMembers, lookup_present (attributes_distinct f), listed]
  cases null : value.isNull <;> simp [Option.filter, null]

theorem required_field (listed : (attributes f).lookup (.plain key) = some value)
    (present : value.isNull = false) : required key (.object (fieldMembers f)) = .ok value := by
  simp [required, member_field listed, present]

theorem value_field (listed : (attributes f).lookup (.plain key) = some value) :
    valueAt (fieldMembers f) key = value := by
  rw [valueAt, member_field listed]
  split
  · next null => exact ((is_null_iff value).mp null).symm
  · rfl

theorem flag_field (listed : (attributes f).lookup (.plain key) = some value) :
    flagAt (fieldMembers f) key = Stored.settledFlag value := by
  rw [flagAt, member_field listed, Stored.settledFlag]
  split <;> rfl

end Attributes

theorem to_datatype_written (d : Datatype) : toDatatype (.string d.name) = .ok d := by
  simp [toDatatype, Datatype.ofName?_name]

theorem as_scalar_written (scalar : Scalar) : asScalar scalar.toJson = .ok scalar := by
  rw [asScalar, Scalar.ofJson?_toJson]

theorem labels_written (labels : Option (List Json)) :
    unlessNull elements (Stored.orNull .array labels) = .ok labels := by
  cases labels with
  | none => rfl
  | some items => rfl

theorem to_set_written (s : ScalarSet) : toSet (.array (s.toList.map Scalar.toJson)) = .ok s := by
  have items : s.toList.mapM (asScalar ∘ Scalar.toJson) = .ok s.toList := by
    have each := mapM_ok (asScalar ∘ Scalar.toJson) id s.toList
      (fun scalar _ => as_scalar_written scalar)
    rwa [List.map_id] at each
  simp [toSet, elements, List.mapM_map, items, ScalarSet.of_list_to_list, bind, Except.bind, pure,
    Except.pure]

theorem members_written (members : Option ScalarSet) :
    unlessNull toSet (Stored.orNull (fun s => .array (s.toList.map Scalar.toJson)) members) =
      .ok members := by
  cases members with
  | none => rfl
  | some s => exact congrArg (·.map some) (to_set_written s)

theorem checked_field (f : Stored.Field) :
    checked f.title.shown f.datatype f.labels.isSome f.members.isSome =
      match f.checkConsistency with
      | .ok () => .ok ()
      | .error e => corrupt (.inconsistent e) := rfl

/-- A field comes back with its flags settled, if it has a title and is consistent. -/
theorem to_field_written (f : Stored.Field) (titled : f.title ≠ .null) :
    toField (ofField f) =
      match f.checkConsistency with
      | .ok () => .ok f.settled
      | .error e => corrupt (.inconsistent e) := by
  have present : f.title.toJson.isNull = false := by
    cases title : f.title with
    | null => exact absurd title titled
    | _ => rfl
  have title : required "title" (.object (fieldMembers f)) = .ok f.title.toJson :=
    required_field rfl present
  have datatype : required "datatype" (.object (fieldMembers f)) =
      .ok (.string f.datatype.name) := required_field rfl rfl
  have value (key : String) (value : Json)
      (listed : (attributes f).lookup (.plain key) = some value) :=
    value_field listed
  have flag (key : String) (value : Json)
      (listed : (attributes f).lookup (.plain key) = some value) :=
    flag_field listed
  rw [of_field_members, toField]
  simp only [title, datatype, to_datatype_written, value "enum_set" _ rfl, value "set" _ rfl,
    labels_written, members_written, bind, Except.bind]
  rw [show f.title.toJson.shown = f.title.shown from rfl, checked_field]
  cases f.checkConsistency with
  | error e => rfl
  | ok done =>
      simp only [as_scalar_written, pure, Except.pure, value "bytes" _ rfl,
        value "characters" _ rfl, value "decimals" _ rfl, value "regex" _ rfl,
        value "foreign" _ rfl, flag "primary" _ rfl, flag "unique" _ rfl, flag "required" _ rfl,
        flag "increment" _ rfl, flag "generated" _ rfl]
      rfl

/-! What is written is storable -/

theorem storable_field {f : Stored.Field}
    (each : ∀ entry ∈ attributes f, Storable entry.2) : Storable (ofField f) := by
  rw [of_field_members, Storable, storable_members_iff]
  have part := List.filter_sublist (l := attributes f) (p := fun (_, value) => !value.isNull)
  exact ⟨(part.map Prod.fst).nodup (attributes_distinct f),
    fun entry member => each entry (part.subset member)⟩

theorem storable_table {t : Stored.Table} (titled : Storable t.title.toJson)
    (each : ∀ f ∈ t.fields.entries, Storable (ofField f)) : Storable (ofTable t) := by
  simp only [ofTable, Storable, StorableMembers, storable_items_iff, List.mem_map]
  refine ⟨by simp, titled, ?_, trivial⟩
  rintro _ ⟨f, member, rfl⟩
  exact each f member

theorem storable_database {db : Stored.Database} (titled : Storable db.title)
    (each : ∀ t ∈ db.tables.entries, Storable (ofTable t)) : Storable (ofDatabase db) := by
  simp only [ofDatabase, Storable, StorableMembers, storable_items_iff, List.mem_map]
  refine ⟨by simp, titled, ?_, trivial⟩
  rintro _ ⟨t, member, rfl⟩
  exact each t member

/-! Tables and databases -/

theorem load_text_eq {db : Stored.Database} (storable : Storable (ofDatabase db)) :
    load (textOf db) = toDatabase (ofDatabase db) := by
  have text := read_text .ascii (.nested 0) (ofDatabase db) storable
  simp [load, textOf, Json.indented, text]

theorem to_table_members (t : Stored.Table) :
    toTable (ofTable t) =
      ((t.fields.entries.map ofField).mapM toField).map
        fun fields => { title := t.title, fields := .ofList fields } := by
  have title : required "title" (ofTable t) = .ok t.title.toJson := rfl
  have fields : required "fields" (ofTable t) =
      .ok (.array (t.fields.entries.map ofField)) := rfl
  simp only [toTable, title, fields, elements, as_scalar_written, bind, Except.bind]
  cases (t.fields.entries.map ofField).mapM toField with
  | error e => rfl
  | ok fields => rfl

theorem to_database_members (db : Stored.Database) :
    toDatabase (ofDatabase db) =
      ((db.tables.entries.map ofTable).mapM toTable).map
        fun tables => tables.foldl Stored.Database.add { title := db.title } := by
  have title : required "title" (ofDatabase db) = .ok db.title := rfl
  have tables : required "tables" (ofDatabase db) =
      .ok (.array (db.tables.entries.map ofTable)) := rfl
  simp only [toDatabase, title, tables, elements, bind, Except.bind]
  cases (db.tables.entries.map ofTable).mapM toTable with
  | error e => rfl
  | ok tables => rfl

/-- A field that has a title and is consistent can be read again. -/
structure Readable (f : Stored.Field) : Prop where
  titled : f.title ≠ .null
  consistent : f.checkConsistency = .ok ()

theorem to_field_readable {f : Stored.Field} (readable : Readable f) :
    toField (ofField f) = .ok f.settled := by
  rw [to_field_written f readable.titled, readable.consistent]

theorem to_table_readable (t : Stored.Table) (readable : ∀ f ∈ t.fields.entries, Readable f) :
    toTable (ofTable t) = .ok t.settled := by
  have fields := mapM_ok (fun f => toField (ofField f)) Stored.Field.settled t.fields.entries
    (fun f member => to_field_readable (readable f member))
  rw [to_table_members, List.mapM_map, Function.comp_def, fields]
  rfl

theorem foldl_add_tables (db : Stored.Database) (tables : List Stored.Table) :
    tables.foldl Stored.Database.add db =
      { title := db.title, tables := tables.foldl Catalog.putLast db.tables } := by
  induction tables generalizing db with
  | nil => rfl
  | cons t rest ih => exact ih (db.add t)

theorem to_database_readable (db : Stored.Database)
    (readable : ∀ t ∈ db.tables.entries, ∀ f ∈ t.fields.entries, Readable f) :
    toDatabase (ofDatabase db) = .ok db.settled := by
  have tables := mapM_ok (fun t => toTable (ofTable t)) Stored.Table.settled db.tables.entries
    (fun t member => to_table_readable t (readable t member))
  have distinct : ((db.tables.entries.map Stored.Table.settled).map Titled.title).Nodup :=
    Catalog.map_distinct db.tables fun _ _ same => same
  have added := (Catalog.foldl_put_last_distinct distinct).trans
    (Catalog.of_list_distinct distinct).symm
  rw [to_database_members, List.mapM_map, Function.comp_def, tables]
  simp only [Except.map, foldl_add_tables, Stored.Database.settled]
  rw [Catalog.ext added]

/-- The text of a database is read as the database, its flags settled. -/
theorem load_text {db : Stored.Database} (storable : Storable (ofDatabase db))
    (readable : ∀ t ∈ db.tables.entries, ∀ f ∈ t.fields.entries, Readable f) :
    load (textOf db) = .ok db.settled := by
  rw [load_text_eq storable, to_database_readable db readable]

/-! Inconsistent fields -/

theorem to_field_inconsistent {f : Stored.Field} (titled : f.title ≠ .null)
    (failing : f.checkConsistency ≠ .ok ()) :
    ∃ e, f.checkConsistency = .error e ∧
      toField (ofField f) = .error (.corrupt (.inconsistent e)) := by
  rw [to_field_written f titled]
  cases check : f.checkConsistency with
  | ok done => exact absurd check failing
  | error e => exact ⟨e, rfl, rfl⟩

-- The field that stops the reading need not be the given one, but it is inconsistent as well,
-- since consistent ones are read.
theorem to_table_inconsistent {t : Stored.Table}
    (titled : ∀ f ∈ t.fields.entries, f.title ≠ .null)
    (failing : ∃ f ∈ t.fields.entries, f.checkConsistency ≠ .ok ()) :
    ∃ f ∈ t.fields.entries, ∃ e, f.checkConsistency = .error e ∧
      toTable (ofTable t) = .error (.corrupt (.inconsistent e)) := by
  obtain ⟨f, member, inconsistent⟩ := failing
  obtain ⟨e, _, refused⟩ := to_field_inconsistent (titled f member) inconsistent
  obtain ⟨first, among, failure, stopped, whole⟩ :=
    mapM_error (fun f => toField (ofField f)) t.fields.entries ⟨f, member, _, refused⟩
  have inconsistentFirst : first.checkConsistency ≠ .ok () := by
    intro consistent
    rw [to_field_readable ⟨titled first among, consistent⟩] at stopped
    cases stopped
  obtain ⟨e, check, refused⟩ := to_field_inconsistent (titled first among) inconsistentFirst
  rw [stopped] at refused
  refine ⟨first, among, e, check, ?_⟩
  rw [to_table_members, List.mapM_map, Function.comp_def, whole, Except.error.inj refused]
  rfl

theorem to_database_inconsistent {db : Stored.Database}
    (titled : ∀ t ∈ db.tables.entries, ∀ f ∈ t.fields.entries, f.title ≠ .null)
    (failing : ∃ t ∈ db.tables.entries, ∃ f ∈ t.fields.entries, f.checkConsistency ≠ .ok ()) :
    ∃ t ∈ db.tables.entries, ∃ f ∈ t.fields.entries, ∃ e, f.checkConsistency = .error e ∧
      toDatabase (ofDatabase db) = .error (.corrupt (.inconsistent e)) := by
  obtain ⟨t, member, inconsistent⟩ := failing
  obtain ⟨_, _, e, _, refused⟩ := to_table_inconsistent (titled t member) inconsistent
  obtain ⟨first, among, failure, stopped, whole⟩ :=
    mapM_error (fun t => toTable (ofTable t)) db.tables.entries ⟨t, member, _, refused⟩
  have inconsistentFirst : ∃ f ∈ first.fields.entries, f.checkConsistency ≠ .ok () := by
    refine Classical.byContradiction fun none => ?_
    have readable : ∀ f ∈ first.fields.entries, Readable f := by
      intro f within
      refine ⟨titled first among f within, ?_⟩
      exact Classical.byContradiction fun failing => none ⟨f, within, failing⟩
    rw [to_table_readable first readable] at stopped
    cases stopped
  obtain ⟨f, within, e, check, refused⟩ :=
    to_table_inconsistent (titled first among) inconsistentFirst
  rw [stopped] at refused
  refine ⟨first, among, f, within, e, check, ?_⟩
  rw [to_database_members, List.mapM_map, Function.comp_def, whole, Except.error.inj refused]
  rfl

/-! Databases of the schema -/

/-- The integers of a field can be converted to text and back. -/
def Convertible (f : Field) : Prop :=
  ∀ value ∈ [f.bytes, f.characters, f.decimals], ∀ n, value = some n →
    digitLength n.natAbs ≤ maxIntegerDigits

variable {db : Database}

theorem of_field_check (f : Field) :
    (Stored.ofField f).checkConsistency = f.checkConsistency := by
  simp [Stored.Field.checkConsistency, Field.checkConsistency, Field.display, Stored.ofField,
    Scalar.shown, Scalar.toJson, Json.shown]

theorem of_fields (t : Table) {each : Stored.Field → Prop} :
    (∀ f ∈ (Stored.ofTable t).fields.entries, each f) ↔
      ∀ f ∈ t.fields.entries, each (Stored.ofField f) := by
  rw [Stored.of_table_entries, List.forall_mem_map]

theorem of_tables (db : Database) {each : Stored.Table → Prop} :
    (∀ t ∈ (Stored.ofDatabase db).tables.entries, each t) ↔
      ∀ t ∈ db.tables.entries, each (Stored.ofTable t) := by
  rw [Stored.of_database_entries, List.forall_mem_map]

theorem storable_of_field {f : Field} (convertible : Convertible f) :
    Storable (ofField (Stored.ofField f)) := by
  apply storable_field
  have integers (value : Option Int) (among : value ∈ [f.bytes, f.characters, f.decimals]) :
      Storable (Stored.orNull .integer value) := by
    cases value with
    | none => trivial
    | some n => exact convertible _ among n rfl
  have texts (value : Option String) :
      Storable (Stored.orNull (fun (text : String) => .string text) value) := by
    cases value <;> trivial
  have labels : Storable (Stored.orNull .array (Stored.ofField f).labels) := by
    rw [Stored.ofField]
    cases f.labels with
    | none => trivial
    | some labels => simp [Stored.orNull, Storable, storable_items_iff]
  have members : Storable (Stored.orNull (fun s => .array (s.toList.map Scalar.toJson))
      (Stored.ofField f).members) := by
    rw [Stored.ofField]
    cases f.members with
    | none => trivial
    | some s =>
        simp [Stored.orNull, Storable, storable_items_iff, Stored.of_labels_to_list,
          Scalar.toJson]
  simp only [attributes, List.forall_mem_cons]
  exact ⟨trivial, trivial, integers _ (by simp), integers _ (by simp), integers _ (by simp),
    texts _, trivial, trivial, trivial, texts _, trivial, trivial, labels, members,
    List.forall_mem_nil _⟩

theorem storable_of_database
    (convertible : ∀ t ∈ db.tables.entries, ∀ f ∈ t.fields.entries, Convertible f) :
    Storable (ofDatabase (Stored.ofDatabase db)) := by
  refine storable_database (by rw [Stored.ofDatabase]; trivial) ?_
  rw [of_tables]
  intro t member
  refine storable_table (by rw [Stored.ofTable]; trivial) ?_
  rw [of_fields]
  exact fun f within => storable_of_field (convertible t member f within)

theorem of_database_ordered (db : Database) : isOrdered (Stored.ofDatabase db) = true := by
  simp only [isOrdered, List.all_eq_true]
  rw [of_tables]
  intro t member
  rw [of_fields]
  intro f within
  rw [Stored.ofField]
  cases f.members with
  | none => rfl
  | some s => simp [ScalarSet.isOrdered, Stored.of_labels_to_list, Scalar.isText]

/-- A snapshot of consistent fields is read as the database that it was written for, order
included, and writes the same text again; one with an inconsistent field is refused for that
inconsistency. -/
theorem load_dump (db : Database)
    (convertible : ∀ t ∈ db.tables.entries, ∀ f ∈ t.fields.entries, Convertible f) :
    ∃ text, dump? (Stored.ofDatabase db) = some text ∧
      ((∀ t ∈ db.tables.entries, ∀ f ∈ t.fields.entries, f.checkConsistency = .ok ()) →
        load text = .ok (Stored.ofDatabase db) ∧ (load text).map dump? = .ok (some text) ∧
          ∀ other, load text = .ok (Stored.ofDatabase other) → other = db) ∧
      ((∃ t ∈ db.tables.entries, ∃ f ∈ t.fields.entries, f.checkConsistency ≠ .ok ()) →
        ∃ t ∈ db.tables.entries, ∃ f ∈ t.fields.entries, ∃ e, f.checkConsistency = .error e ∧
          load text = .error (.corrupt (.inconsistent e)) ∧
          (Failure.corrupt (.inconsistent e)).message? =
            some s!"corrupt schema snapshot: InternalError({Text.showQuoted e.message})") := by
  have storable := storable_of_database convertible
  have dumped : dump? (Stored.ofDatabase db) = some (textOf (Stored.ofDatabase db)) :=
    if_pos (of_database_ordered db)
  refine ⟨_, dumped, fun consistent => ?_, fun failing => ?_⟩
  · have readable : ∀ t ∈ (Stored.ofDatabase db).tables.entries, ∀ f ∈ t.fields.entries,
        Readable f := by
      rw [of_tables]
      intro t member
      rw [of_fields]
      exact fun f within => ⟨nofun, (of_field_check f).trans (consistent t member f within)⟩
    have loaded := load_text storable readable
    rw [Stored.of_database_settled] at loaded
    refine ⟨loaded, ?_, fun other again => ?_⟩
    · rw [loaded, Except.map, dumped]
    · rw [loaded, Except.ok.injEq] at again
      exact (Stored.of_database_injective again).symm
  · have titled : ∀ t ∈ (Stored.ofDatabase db).tables.entries, ∀ f ∈ t.fields.entries,
        f.title ≠ .null := by
      rw [of_tables]
      intro t member
      rw [of_fields]
      exact fun f within => nofun
    obtain ⟨t, member, f, within, inconsistent⟩ := failing
    have among : Stored.ofTable t ∈ (Stored.ofDatabase db).tables.entries := by
      rw [Stored.of_database_entries]
      exact List.mem_map_of_mem member
    have inside : Stored.ofField f ∈ (Stored.ofTable t).fields.entries := by
      rw [Stored.of_table_entries]
      exact List.mem_map_of_mem within
    rw [← of_field_check] at inconsistent
    obtain ⟨_, found, _, place, e, check, refused⟩ :=
      to_database_inconsistent titled ⟨_, among, _, inside, inconsistent⟩
    rw [Stored.of_database_entries] at found
    obtain ⟨table, listed, rfl⟩ := List.mem_map.mp found
    rw [Stored.of_table_entries] at place
    obtain ⟨field, named, rfl⟩ := List.mem_map.mp place
    rw [of_field_check] at check
    refine ⟨table, listed, field, named, e, check, ?_, rfl⟩
    rw [load_text_eq storable, refused]

/-- Columns with text beyond ASCII, and one whose datatype is left open. -/
def shelf (datatype : Datatype) : Table where
  title := "regale"
  fields := {
    entries := [
      { title := "größe", datatype := .signed64, bytes := some 64, primary := true },
      { title := "farbe", datatype, labels := some ["grün", "back\\slash", ""] },
      { title := "form", datatype := .set, members := some (.ofList ["oval", "eckig"]) }]
    distinct := by simp [Titled.title] }

def shelves (datatype : Datatype) : Database where
  title := "Lager \"1\""
  tables := {
    entries := [shelf datatype, { title := "leer" }]
    distinct := by simp [Titled.title, shelf] }

theorem load_dump_shelves :
    (∃ text, dump? (Stored.ofDatabase (shelves .enum)) = some text ∧
      load text = .ok (Stored.ofDatabase (shelves .enum)) ∧
      (load text).map dump? = .ok (some text)) ∧
    ∃ text e, dump? (Stored.ofDatabase (shelves .string)) = some text ∧
      load text = .error (.corrupt (.inconsistent e)) := by
  have convertible (datatype : Datatype) :
      ∀ t ∈ (shelves datatype).tables.entries, ∀ f ∈ t.fields.entries, Convertible f := by
    have bound : digitLength 64 ≤ maxIntegerDigits := by decide
    simp [shelves, shelf, Catalog.empty, Convertible, bound]
  constructor
  · obtain ⟨text, dumped, kept, _⟩ := load_dump (shelves .enum) (convertible .enum)
    obtain ⟨loaded, again, _⟩ :=
      kept (by simp [shelves, shelf, Catalog.empty, Field.checkConsistency, consistency])
    exact ⟨text, dumped, loaded, again⟩
  · obtain ⟨text, dumped, _, refused⟩ := load_dump (shelves .string) (convertible .string)
    obtain ⟨_, _, _, _, e, _, refused, _⟩ :=
      refused (by simp [shelves, shelf, Catalog.empty, Field.checkConsistency, consistency])
    exact ⟨text, e, dumped, refused⟩

end SchemaCompiler.Snapshot
