import SchemaCompiler.Proofs.Snapshot.RoundTrip

/-!
Which snapshots are answered: with a database whose parts are in order, or with a failure that has
a wording. JSON of any shape is, unless the reading comes to a field that is no object.
-/

namespace SchemaCompiler.Snapshot

open Outcome

variable {α β : Type}

/-! Answers -/

/-- Consistent fields under their titles, in tables under theirs. -/
def InOrder (db : Stored.Database) : Prop :=
  ∀ t ∈ db.tables.entries, db.tables.find? t.title.key = some t ∧
    ∀ f ∈ t.fields.entries, t.fields.find? f.title.key = some f ∧ f.checkConsistency = .ok ()

inductive Answered : Read Stored.Database → Prop
  | read {db : Stored.Database} (inOrder : InOrder db) : Answered (.ok db)
  | refused {failure : Failure} {message : String} (worded : failure.message? = some message) :
      Answered (.error failure)

def IsObject : Json → Prop
  | .object _ => True
  | _ => False

/-- Going through items comes to one of a kind: all in front of it are read. -/
def ComesTo (read : Json → Read α) (kind : Json → Prop) (items : List Json) : Prop :=
  ∃ before item after, items = before ++ item :: after ∧
    (∀ earlier ∈ before, ∃ a, read earlier = .ok a) ∧ kind item

/-- An object with a title, and with something to go through under a key. -/
def Lists (key : String) (value : Json) (items : List Json) : Prop :=
  ∃ title listed, required "title" value = .ok title ∧ required key value = .ok listed ∧
    elements listed = .ok items

/-- A table in which the reading comes to a field that is no object. -/
def BareTable (value : Json) : Prop :=
  ∃ items, Lists "fields" value items ∧ ComesTo toField (¬ IsObject ·) items

/-- A snapshot in which the reading comes to a field that is no object. -/
def Bare (value : Json) : Prop :=
  ∃ items, Lists "tables" value items ∧ ComesTo toTable BareTable items

/-! Failures of the parts -/

def IsCorrupt (failure : Failure) : Prop := ∃ corruption, failure = .corrupt corruption

theorem corrupt_fails (corruption : Corruption) :
    FailsIn IsCorrupt (corrupt corruption : Read α) :=
  fails_in_error ⟨corruption, rfl⟩

theorem required_fails (key : String) (value : Json) : FailsIn IsCorrupt (required key value) := by
  unfold required
  split
  · split
    · exact fails_in_ok _
    · exact corrupt_fails _
  · exact corrupt_fails _

theorem as_scalar_fails (value : Json) : FailsIn IsCorrupt (asScalar value) := by
  unfold asScalar
  split
  · exact fails_in_ok _
  · exact corrupt_fails _

theorem elements_fails (value : Json) : FailsIn IsCorrupt (elements value) := by
  unfold elements
  split
  · exact fails_in_ok _
  · exact fails_in_ok _
  · exact fails_in_ok _
  · exact corrupt_fails _

theorem to_set_fails (value : Json) : FailsIn IsCorrupt (toSet value) := by
  apply fails_in_bind (elements_fails value)
  intro items
  apply fails_in_bind (fails_in_mapM as_scalar_fails items)
  exact fun members => fails_in_ok _

theorem unless_null_fails {convert : Json → Read α}
    (converts : ∀ value, FailsIn IsCorrupt (convert value)) (value : Json) :
    FailsIn IsCorrupt (unlessNull convert value) := by
  unfold unlessNull
  split
  · exact fails_in_ok _
  · exact fails_in_map some (converts value)

theorem to_datatype_fails (value : Json) : FailsIn IsCorrupt (toDatatype value) := by
  unfold toDatatype
  split
  · split
    · exact fails_in_ok _
    · exact corrupt_fails _
  · exact corrupt_fails _

theorem checked_fails (title : String) (datatype : Datatype) (labelled membered : Bool) :
    FailsIn IsCorrupt (checked title datatype labelled membered) := by
  unfold checked
  split
  · exact fails_in_ok _
  · exact corrupt_fails _

/-- A field that is an object is read, or refused for what it holds. -/
theorem to_field_fails (members : List (WideText × Json)) :
    FailsIn IsCorrupt (toField (.object members)) := by
  -- Values are kept as they are: only what is looked into can be refused.
  apply fails_in_bind (required_fails "title" _)
  intro title
  apply fails_in_bind (required_fails "datatype" _)
  intro typed
  apply fails_in_bind (to_datatype_fails typed)
  intro datatype
  apply fails_in_bind (unless_null_fails elements_fails _)
  intro labels
  apply fails_in_bind (unless_null_fails to_set_fails _)
  intro set
  apply fails_in_bind (checked_fails title.shown datatype labels.isSome set.isSome)
  intro consistent
  apply fails_in_bind (as_scalar_fails title)
  exact fun named => fails_in_ok _

theorem to_field_bare_iff (value : Json) :
    toField value = .error .fieldNotObject ↔ ¬ IsObject value := by
  cases value with
  | object members =>
      simp only [IsObject, not_true, iff_false]
      intro failed
      obtain ⟨_, same⟩ := to_field_fails members _ failed
      cases same
  | null | bool _ | integer _ | float _ | string _ | array _ => simp [toField, IsObject]

/-! Lists of items under a title -/

/-- Tables and databases are read alike: a title, and what is gone through under a key. -/
def readList (key : String) (read : Json → Read α) (build : Json → List α → Read β)
    (value : Json) : Read β := do
  let title ← required "title" value
  let items ← (← elements (← required key value)).mapM read
  build title items

def buildTable (title : Json) (fields : List Stored.Field) : Read Stored.Table := do
  return { title := ← asScalar title, fields := .ofList fields }

def buildDatabase (title : Json) (tables : List Stored.Table) : Read Stored.Database :=
  .ok (tables.foldl Stored.Database.add { title })

theorem to_table_list (value : Json) :
    toTable value = readList "fields" toField buildTable value :=
  rfl

theorem to_database_list (value : Json) :
    toDatabase value = readList "tables" toTable buildDatabase value :=
  rfl

theorem build_table_fails (title : Json) (fields : List Stored.Field) :
    FailsIn IsCorrupt (buildTable title fields) :=
  fails_in_bind (as_scalar_fails title) fun _ => fails_in_ok _

theorem build_database_fails (title : Json) (tables : List Stored.Table) :
    FailsIn IsCorrupt (buildDatabase title tables) :=
  fails_in_ok _

section Lists

variable {key : String} {read : Json → Read α} {build : Json → List α → Read β} {value : Json}

theorem read_list_ok {result : β} (passed : readList key read build value = .ok result) :
    ∃ title items parts, required "title" value = .ok title ∧ Lists key value items ∧
      items.mapM read = .ok parts ∧ build title parts = .ok result := by
  simp only [readList, bind_ok_iff] at passed
  obtain ⟨title, titled, listed, found, items, gone, parts, went, built⟩ := passed
  exact ⟨title, items, parts, titled, ⟨title, listed, titled, found, gone⟩, went, built⟩

/-- Failures of the items apart, a list is refused for what is wrong with the snapshot. -/
theorem read_list_error (builds : ∀ title parts, FailsIn IsCorrupt (build title parts))
    {e : Failure} (failed : readList key read build value = .error e) :
    IsCorrupt e ∨ ∃ items, Lists key value items ∧ items.mapM read = .error e := by
  simp only [readList, bind_error_iff] at failed
  rcases failed with untitled | ⟨title, named, missing | ⟨listed, found, failed⟩⟩
  · exact Or.inl (required_fails _ _ e untitled)
  · exact Or.inl (required_fails _ _ e missing)
  · rcases failed with shapeless | ⟨items, gone, stopped | ⟨parts, _, unbuilt⟩⟩
    · exact Or.inl (elements_fails _ e shapeless)
    · exact Or.inr ⟨items, ⟨title, listed, named, found, gone⟩, stopped⟩
    · exact Or.inl (builds title parts e unbuilt)

theorem read_list_items {items : List Json} (lists : Lists key value items) {e : Failure}
    (failed : items.mapM read = .error e) : readList key read build value = .error e := by
  obtain ⟨title, listed, named, found, gone⟩ := lists
  simp [readList, named, found, gone, failed, bind, Except.bind]

theorem read_list_bare_iff (builds : ∀ title parts, FailsIn IsCorrupt (build title parts))
    {kind : Json → Prop} (bare : ∀ item, read item = .error .fieldNotObject ↔ kind item) :
    readList key read build value = .error .fieldNotObject ↔
      ∃ items, Lists key value items ∧ ComesTo read kind items := by
  have items_bare (items : List Json) :
      items.mapM read = .error .fieldNotObject ↔ ComesTo read kind items := by
    simp only [mapM_error_iff, bare, ComesTo]
  constructor
  · intro failed
    rcases read_list_error builds failed with ⟨_, same⟩ | ⟨items, lists, stopped⟩
    · cases same
    · exact ⟨items, lists, (items_bare items).mp stopped⟩
  · rintro ⟨items, lists, comes⟩
    exact read_list_items lists ((items_bare items).mpr comes)

/-- How reading fails, whatever the JSON. -/
def IsForeseen (failure : Failure) : Prop := IsCorrupt failure ∨ failure = .fieldNotObject

theorem read_list_fails (builds : ∀ title parts, FailsIn IsCorrupt (build title parts))
    (each : ∀ item, FailsIn IsForeseen (read item)) :
    FailsIn IsForeseen (readList key read build value) := by
  intro e failed
  rcases read_list_error builds failed with corrupted | ⟨items, _, stopped⟩
  · exact Or.inl corrupted
  · exact fails_in_mapM each items e stopped

end Lists

theorem to_table_bare_iff (value : Json) :
    toTable value = .error .fieldNotObject ↔ BareTable value :=
  read_list_bare_iff build_table_fails to_field_bare_iff

theorem to_database_bare_iff (value : Json) :
    toDatabase value = .error .fieldNotObject ↔ Bare value :=
  read_list_bare_iff build_database_fails to_table_bare_iff

theorem to_database_fails (value : Json) : FailsIn IsForeseen (toDatabase value) := by
  have fields (item : Json) : FailsIn IsForeseen (toField item) := by
    cases item with
    | object members =>
        intro e failed
        exact Or.inl (to_field_fails members e failed)
    | null | bool _ | integer _ | float _ | string _ | array _ =>
        exact fails_in_error (Or.inr rfl)
  exact read_list_fails build_database_fails fun _ => read_list_fails build_table_fails fields

/-! What is read is in order -/

/-- What a field that is read holds of the snapshot. -/
structure Holds (members : List (WideText × Json)) (f : Stored.Field) : Prop where
  title : required "title" (.object members) = .ok f.title.toJson
  labels : unlessNull elements (valueAt members "enum_set") = .ok f.labels
  set : unlessNull toSet (valueAt members "set") = .ok f.members
  consistent : f.checkConsistency = .ok ()
  bounds : f.bytes = valueAt members "bytes" ∧ f.characters = valueAt members "characters" ∧
    f.decimals = valueAt members "decimals"
  texts : f.regex = valueAt members "regex" ∧ f.foreign = valueAt members "foreign"
  flags : f.primary = flagAt members "primary" ∧ f.unique = flagAt members "unique" ∧
    f.required = flagAt members "required" ∧ f.increment = flagAt members "increment" ∧
    f.generated = flagAt members "generated"

theorem as_scalar_ok_iff (value : Json) (scalar : Scalar) :
    asScalar value = .ok scalar ↔ value = scalar.toJson := by
  constructor
  · intro found
    cases value with
    | array | object => cases found
    | null | bool | integer | float | string =>
        cases found
        rfl
  · rintro rfl
    exact as_scalar_written scalar

theorem checked_ok {title : String} {datatype : Datatype} {labelled membered : Bool}
    (passed : checked title datatype labelled membered = .ok ()) :
    consistency title s!"{title} ({datatype.name})" datatype labelled membered = .ok () := by
  unfold checked at passed
  split at passed
  · next consistent => exact consistent
  · cases passed

theorem to_field_holds {value : Json} {f : Stored.Field} (passed : toField value = .ok f) :
    ∃ members, value = .object members ∧ Holds members f := by
  unfold toField at passed
  split at passed
  · next members =>
    simp only [bind_ok_iff] at passed
    obtain ⟨title, titled, _, _, datatype, _, labels, labelled, set, membered, _, consistent,
      scalar, named, made⟩ := passed
    cases made
    rw [as_scalar_ok_iff] at named
    subst named
    exact ⟨members, rfl, titled, labelled, membered, checked_ok consistent, ⟨rfl, rfl, rfl⟩,
      ⟨rfl, rfl⟩, rfl, rfl, rfl, rfl, rfl⟩
  · cases passed

theorem to_table_built {value : Json} {t : Stored.Table} (passed : toTable value = .ok t) :
    ∃ items fields, required "title" value = .ok t.title.toJson ∧ Lists "fields" value items ∧
      items.mapM toField = .ok fields ∧ t.fields = .ofList fields := by
  rw [to_table_list] at passed
  obtain ⟨title, items, fields, titled, lists, went, built⟩ := read_list_ok passed
  obtain ⟨scalar, named, made⟩ := (bind_ok_iff _ _ _).mp built
  cases made
  rw [as_scalar_ok_iff] at named
  subst named
  exact ⟨items, fields, titled, lists, went, rfl⟩

theorem to_database_built {value : Json} {db : Stored.Database}
    (passed : toDatabase value = .ok db) :
    ∃ items tables, required "title" value = .ok db.title ∧ Lists "tables" value items ∧
      items.mapM toTable = .ok tables ∧ db.tables = tables.foldl Catalog.putLast .empty := by
  rw [to_database_list] at passed
  obtain ⟨title, items, tables, titled, lists, went, built⟩ := read_list_ok passed
  cases built
  rw [foldl_add_tables]
  exact ⟨items, tables, titled, lists, went, rfl⟩

/-- Every field of a table that is read comes from an item of its list. -/
theorem table_field_read {value : Json} {t : Stored.Table} (passed : toTable value = .ok t)
    {f : Stored.Field} (member : f ∈ t.fields.entries) :
    ∃ items, Lists "fields" value items ∧ ∃ item ∈ items, toField item = .ok f := by
  obtain ⟨items, fields, _, lists, went, same⟩ := to_table_built passed
  rw [same] at member
  exact ⟨items, lists, mem_mapM went f (Catalog.mem_of_list member)⟩

theorem database_table_read {value : Json} {db : Stored.Database}
    (passed : toDatabase value = .ok db) {t : Stored.Table} (member : t ∈ db.tables.entries) :
    ∃ items, Lists "tables" value items ∧ ∃ item ∈ items, toTable item = .ok t := by
  obtain ⟨items, tables, _, lists, went, same⟩ := to_database_built passed
  rw [same] at member
  refine ⟨items, lists, mem_mapM went t ?_⟩
  rcases Catalog.mem_foldl Catalog.mem_put_last member with added | none
  · exact added
  · cases none

/-- Nothing has to be looked for twice: what is read stands under its title. -/
theorem read_database_in_order {value : Json} {db : Stored.Database}
    (passed : toDatabase value = .ok db) : InOrder db := by
  intro t member
  obtain ⟨_, _, table, _, read⟩ := database_table_read passed member
  refine ⟨Catalog.find_entry member, fun f within => ⟨Catalog.find_entry within, ?_⟩⟩
  obtain ⟨_, _, field, _, made⟩ := table_field_read read within
  obtain ⟨_, _, holds⟩ := to_field_holds made
  exact holds.consistent

/-! Texts -/

theorem unworded_unanswered {failure : Failure} (unworded : failure.message? = none) :
    ¬ Answered (.error failure) := by
  intro answered
  cases answered with
  | refused worded =>
      rw [unworded] at worded
      cases worded

theorem to_database_answered_iff (value : Json) : Answered (toDatabase value) ↔ ¬ Bare value := by
  rw [← to_database_bare_iff]
  cases outcome : toDatabase value with
  | ok db =>
      have answered := Answered.read (read_database_in_order outcome)
      simp [answered]
  | error failure =>
      rcases to_database_fails value failure outcome with ⟨corruption, rfl⟩ | rfl
      · have answered : Answered (.error (.corrupt corruption)) := .refused rfl
        simp [answered]
      · have unanswered : ¬ Answered (.error .fieldNotObject) := unworded_unanswered rfl
        simp [unanswered]

/-- No integer of a text has too many digits, and the reading comes to no field that is no
object. -/
def Manageable (text : String) : Prop :=
  Json.read text.toList ≠ .error .integerTooLong ∧
    ∀ value, Json.read text.toList = .ok value → ¬ Bare value

theorem load_answered_iff (text : String) : Answered (load text) ↔ Manageable text := by
  rw [load, Manageable]
  cases parsed : Json.read text.toList with
  | ok value => simp [to_database_answered_iff]
  | error e =>
      cases e with
      | malformed fault left =>
          simp only [reduceCtorEq, false_imp_iff, implies_true, and_true, ne_eq,
            Except.error.injEq, not_false_eq_true, iff_true]
          exact .refused rfl
      | integerTooLong =>
          simp only [ne_eq, not_true, false_and, iff_false]
          exact unworded_unanswered rfl

theorem load_in_order {text : String} {db : Stored.Database} (loaded : load text = .ok db) :
    InOrder db := by
  rw [load] at loaded
  split at loaded
  · exact read_database_in_order loaded
  · cases loaded
  · cases loaded

/-- The layout of a snapshot does not matter. -/
theorem load_compact {value : Json} (storable : Json.Storable value) :
    load value.compact = toDatabase value := by
  have text := Json.read_text .ascii .line value storable
  simp [load, Json.compact, text]

end SchemaCompiler.Snapshot
