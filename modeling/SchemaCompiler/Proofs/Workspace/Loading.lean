import SchemaCompiler.Proofs.Snapshot.Answer
import SchemaCompiler.Proofs.Workspace.World

/-!
Loading a schema in a session. A snapshot that is of no use is passed over for the dump, as long
as its failure has a wording.
-/

namespace SchemaCompiler.Workspace

open Files Snapshot

/-! Dumps and snapshots -/

theorem perform_read_schema {path : Path} {w : World} {dump : String}
    (found : w.read path = .ok dump) (title : String) {declared : Database}
    (parsed : (Ddl.readSchema (unified dump) title).outcome = .ok declared) :
    (perform (readSchema path title) w).1 = .ok declared := by
  rw [readSchema, perform_bind, perform_read_text found]
  simp only [perform_bind, perform_notes, parsed]
  rfl

theorem perform_declared {path : Path} {w : World} {dump : String}
    (found : w.read path = .ok dump) {declared : Database}
    (parsed : (Ddl.readSchema (unified dump) "Database").outcome = .ok declared) :
    (perform (do return Stored.ofDatabase (← readSchema path)) w).1 =
      .ok (Stored.ofDatabase declared) := by
  have read := perform_read_schema found "Database" parsed
  rw [perform_bind]
  generalize perform (readSchema path) w = result at read
  obtain ⟨outcome, later⟩ := result
  obtain rfl : outcome = .ok declared := read
  rfl

theorem perform_load_database {path : Path} {w : World} {text : String}
    (found : w.read path = .ok text) :
    (perform (loadDatabase path) w).1 = (load (unified text)).mapError (snapshotFailure path) ∧
      ∀ other, (perform (loadDatabase path) w).2.read other = w.read other := by
  rw [loadDatabase, perform_bind, perform_read_text found]
  simp only [perform_bind]
  cases load (unified text) with
  | ok db => exact ⟨rfl, fun _ => rfl⟩
  | error failure => exact ⟨rfl, fun _ => rfl⟩

/-! Schemas -/

/-- The database of a snapshot, or that of the dump if the snapshot is of no use. A failure that
has no wording is passed on. -/
def preferred (snapshot : Snapshot.Read Stored.Database) (declared : Database) :
    Except Failure Stored.Database :=
  match snapshot with
  | .ok db => .ok db
  | .error failure =>
    if failure.message?.isSome then .ok (Stored.ofDatabase declared) else .error (.snapshot failure)

/-- What is loaded where the file of the snapshot has the content. -/
def preferredOf (content : Content) (declared : Database) : Except Failure Stored.Database :=
  match content with
  | .text text => preferred (load (unified text)) declared
  | .raw _ => .error (.files .undecodable)

/-- Both files are there, and the dump is read. -/
structure Provides (w : World) (settings : Settings) (content : Content) (dump : String)
    (declared : Database) : Prop where
  stored : w.Holds settings.snapshotPath content
  dumped : w.read settings.schemaPath = .ok dump
  parsed : (Ddl.readSchema (unified dump) "Database").outcome = .ok declared

theorem perform_load_schema {w : World} {settings : Settings} {content : Content} {dump : String}
    {declared : Database} (provides : Provides w settings content dump declared) :
    (perform (loadSchema settings false) w).1 = preferredOf content declared := by
  have found := World.read_holds provides.stored
  rw [loadSchema]
  simp only [Bool.not_false, if_true, perform_bind, perform_outcome]
  cases content with
  | raw bytes =>
      rw [loadDatabase, perform_bind, perform_read_undecodable found]
      rfl
  | text text =>
      obtain ⟨outcome, kept⟩ := perform_load_database found
      rw [preferredOf, outcome]
      cases load (unified text) with
      | ok db => rfl
      | error failure =>
          have mapped : (Except.error failure : Snapshot.Read Stored.Database).mapError
              (snapshotFailure settings.snapshotPath) =
                .error (snapshotFailure settings.snapshotPath failure) := rfl
          simp only [mapped, snapshotFailure, preferred]
          cases worded : failure.message?.isSome with
          | true =>
              simp only [if_true, perform_bind, perform_note]
              rw [← perform_bind]
              refine perform_declared ?_ provides.parsed
              rw [read_noted, kept]
              exact provides.dumped
          | false => rfl

theorem preferred_ok_iff (text : String) (declared : Database) :
    (∃ db, preferred (load text) declared = .ok db) ↔ Answered (load text) := by
  cases outcome : load text with
  | ok db =>
      have answered := Answered.read (load_in_order outcome)
      simp [preferred, answered]
  | error failure =>
      cases worded : failure.message? with
      | some message =>
          have answered : Answered (.error failure) := .refused worded
          simp [preferred, worded, answered]
      | none => simp [preferred, worded, unworded_unanswered worded]

/-- Content that is text, of which the reading makes something. -/
def ManageableContent (content : Content) : Prop :=
  ∃ text, content = .text text ∧ Manageable (unified text)

theorem preferred_of_ok_iff (content : Content) (declared : Database) :
    (∃ db, preferredOf content declared = .ok db) ↔ ManageableContent content := by
  cases content with
  | raw bytes => simp [preferredOf, ManageableContent]
  | text text => simp [preferredOf, ManageableContent, preferred_ok_iff, load_answered_iff]

/-- A text is answered if and only if it is manageable. When the dump is read, a schema is loaded
if and only if the file of the snapshot holds such a text: from the snapshot, or else from the dump.
Otherwise the failure of the snapshot is passed on. -/
theorem schema_loads_if_manageable (text : String) :
    (Answered (load text) ↔ Manageable text) ∧
    ∀ w settings content dump declared, Provides w settings content dump declared →
      (perform (loadSchema settings false) w).1 = preferredOf content declared ∧
      ((∃ db, (perform (loadSchema settings false) w).1 = .ok db) ↔
        ManageableContent content) := by
  refine ⟨load_answered_iff text, fun w settings content dump declared provides => ?_⟩
  have outcome := perform_load_schema provides
  refine ⟨outcome, ?_⟩
  rw [outcome, preferred_of_ok_iff]

def shopDump : String := "CREATE TABLE \x60t\x60 (\n\x60id\x60 int\n);\n"

def shopDatabase : Database where
  tables := .ofList [{
    title := "t"
    fields := .ofList [{ title := "id", datatype := .signed64, bytes := some 64 }] }]

/-- A folder with a dump, and with a snapshot of the given content. -/
def shopWorld (content : String) : World where
  tree := ⟨[(["database.json"], .file content), (["schema.sql"], .file shopDump)]⟩

theorem shop_provides (content : String) :
    Provides (shopWorld content) {} content shopDump shopDatabase where
  stored := ⟨rfl, rfl⟩
  dumped := rfl
  parsed := by
    have read : (Ddl.readSchema (unified shopDump) "Database").outcome.toOption =
        some shopDatabase := by decide +kernel
    cases parsed : (Ddl.readSchema (unified shopDump) "Database").outcome with
    | ok db =>
        rw [parsed] at read
        exact congrArg Except.ok (Option.some.inj read)
    | error failure =>
        rw [parsed] at read
        cases read

/-- A snapshot of one table, which has the given list of fields if any. -/
def shopSnapshot (fields : List (WideText × Json)) : Json :=
  .object [("title", .string "shop"),
    ("tables", .array [.object (("title", .string "t") :: fields)])]

/-- A snapshot in which a table has no list of fields is passed over for the dump. -/
theorem schema_loads_if_manageable_shop :
    Answered (load (shopSnapshot []).compact) ∧
      (perform (loadSchema {} false) (shopWorld (shopSnapshot []).compact)).1 =
        .ok (Stored.ofDatabase shopDatabase) := by
  have refused : load (shopSnapshot []).compact = .error (.corrupt (.missingKey "fields")) := by
    rw [load_compact]
    · rfl
    · simp [shopSnapshot, Json.Storable, Json.StorableMembers, Json.StorableItems]
  have raw : unified (shopSnapshot []).compact = (shopSnapshot []).compact := by decide +kernel
  obtain ⟨_, loads⟩ := schema_loads_if_manageable (shopSnapshot []).compact
  constructor
  · rw [refused]
    exact .refused rfl
  · rw [(loads _ _ _ _ _ (shop_provides (shopSnapshot []).compact)).1, preferredOf, raw, refused]
    rfl

/-- The text of a snapshot with a bare name in the place of a field. -/
def bareText : String :=
  "\x7b\"title\": \"shop\", \"tables\": [\x7b\"title\": \"t\", \"fields\": [\"id\"]\x7d]\x7d"

/-- Neither the snapshot's failure has a wording, nor is the dump read in its place. -/
theorem bare_field_unanswered :
    ¬ Answered (load bareText) ∧
      Provides (shopWorld bareText) {} bareText shopDump shopDatabase ∧
      ∃ failure, (perform (loadSchema {} false) (shopWorld bareText)).1 = .error failure ∧
        failure.message? = none := by
  have written : bareText = (shopSnapshot [("fields", .array [.string "id"])]).compact := by
    decide +kernel
  have stopped : load bareText = .error .fieldNotObject := by
    rw [written, load_compact]
    · rfl
    · simp [shopSnapshot, Json.Storable, Json.StorableMembers, Json.StorableItems]
  have raw : unified bareText = bareText := by decide +kernel
  refine ⟨?_, shop_provides bareText, .snapshot .fieldNotObject, ?_, rfl⟩
  · rw [stopped]
    exact unworded_unanswered rfl
  · rw [perform_load_schema (shop_provides bareText), preferredOf, raw, stopped]
    rfl

end SchemaCompiler.Workspace
