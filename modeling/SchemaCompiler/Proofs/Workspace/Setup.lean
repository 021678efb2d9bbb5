import SchemaCompiler.Proofs.Snapshot.Reload
import SchemaCompiler.Proofs.Workspace.Export
import SchemaCompiler.Proofs.Workspace.Loading
import SchemaCompiler.Proofs.Workspace.Settings

/-!
Setting up a workspace again. What a run leaves is what the next one looks for: settings that read
as before, a snapshot of the database, and a file of types for each table. So the next run comes to
the same database and writes what is there already, unless a snapshot had flags that are null: these
are left out when it is written, and come back as false.
-/

namespace SchemaCompiler.Workspace

open Files Outcome Snapshot
open Stored (renderTable)

variable {w after : World} {db : Stored.Database} {settings : Settings}

/-! Settings -/

/-- The file that settings are taken from. -/
def settingsPath (file : Option Path) : Path := file.getD Settings.defaultPath

/-- The settings stand in a file, but for a place of the dump that is given beside it. -/
def Configured (w : World) (path : Path) (schemaPath : Option String) (settings : Settings) :
    Prop :=
  ∃ text own, w.read path = .ok text ∧ Settings.ofText path text = .ok own ∧
    settings = own.withSchema schemaPath

theorem load_settings_ok {path : Path}
    (ran : perform (Settings.load path) w = (.ok settings, after)) :
    after = w ∧ ∃ text, w.read path = .ok text ∧ Settings.ofText path text = .ok settings := by
  rw [Settings.load, perform_bind_ok_iff] at ran
  obtain ⟨text, later, read, went⟩ := ran
  obtain ⟨found, rfl⟩ := (perform_read_ok_iff _).mp read
  obtain ⟨told, rfl⟩ := (perform_or_fail_ok_iff _ _).mp went
  exact ⟨rfl, text, found, told⟩

theorem save_settings_ok {path saved : Path}
    (ran : perform (Settings.save settings path) w = (.ok saved, after)) :
    after.read path = .ok (Settings.fileText settings.toEntries) ∧
      World.Keeps (· = path.destination w.folder) w after := by
  rw [Settings.save, Settings.saveEntries, perform_bind_ok_iff] at ran
  obtain ⟨_, later, wrote, went⟩ := ran
  cases went
  exact World.write_ok ((perform_write_ok_iff _).mp wrote)

theorem default_text : Settings.ofText Settings.defaultPath
    (Settings.fileText (Settings.toEntries {})) = .ok {} := by
  rw [Settings.of_file_text (List.Perm.refl _), if_pos (by decide)]

/-- Settings that were resolved stand in their file, whether it had to be written or not. -/
theorem load_configured {path : Path} {schemaPath : Option String}
    (ran : perform (Settings.load path) w = (.ok settings, after)) :
    Configured after path schemaPath (settings.withSchema schemaPath) ∧ after = w := by
  obtain ⟨rfl, text, found, told⟩ := load_settings_ok ran
  exact ⟨⟨text, settings, found, told, rfl⟩, rfl⟩

theorem resolve_ok {file : Option Path} {schemaPath : Option String}
    (ran : perform (Settings.resolve file schemaPath) w = (.ok settings, after)) :
    Configured after (settingsPath file) schemaPath settings ∧
      World.Keeps (· = (settingsPath file).destination w.folder) w after := by
  rw [Settings.resolve, perform_bind_ok_iff] at ran
  obtain ⟨own, later, loaded, went⟩ := ran
  cases went
  cases file with
  | some path =>
      obtain ⟨configured, rfl⟩ := load_configured loaded
      exact ⟨configured, World.keeps_refl⟩
  | none =>
      rw [Settings.loadOrCreate, perform_bind_ok_iff] at loaded
      obtain ⟨isFile, between, asked, went⟩ := loaded
      obtain rfl := asked_world asked
      cases isFile with
      | true =>
          obtain ⟨configured, rfl⟩ := load_configured went
          exact ⟨configured, World.keeps_refl⟩
      | false =>
          simp only [Bool.false_eq_true, if_false, perform_bind_ok_iff] at went
          obtain ⟨path, saved, wrote, _, noted, told, done⟩ := went
          cases done
          obtain rfl := noted_world told
          obtain ⟨held, kept⟩ := save_settings_ok wrote
          refine ⟨⟨_, {}, held, default_text, rfl⟩, ?_⟩
          exact World.keeps_trans kept (World.keeps_notes _ _)

theorem settles_resolve {file : Option Path} {schemaPath : Option String}
    (configured : Configured w (settingsPath file) schemaPath settings) :
    Settles (Settings.resolve file schemaPath) w settings := by
  obtain ⟨text, own, found, told, rfl⟩ := configured
  have loads : Settles (Settings.load (settingsPath file)) w own := by
    refine settles_bind (settles_read found _) ?_
    rw [told]
    exact settles_or_fail _ _ _
  have resolves : Settles (Settings.loadOrCreate file) w own := by
    cases file with
    | some path => exact loads
    | none => exact settles_bind (settles_is_file found) loads
  exact settles_bind resolves (settles_pure _ _)

/-! Databases -/

theorem unify_line_ends_kept {text : List Char} (absent : '\r' ∉ text) :
    Text.unifyLineEnds text = text := by
  fun_induction Text.unifyLineEnds text with
  | case1 => rfl
  | case2 => simp at absent
  | case3 => simp at absent
  | case4 c rest _ _ ih => rw [ih (fun member => absent (List.mem_cons_of_mem c member))]

/-- The line ends of a snapshot are line feeds already. -/
theorem unified_text (reloads : Reloads db) : unified (textOf db) = textOf db := by
  have absent : '\r' ∉ (textOf db).toList := by
    intro member
    rcases text_lined reloads _ member with plain | feed
    · exact absurd plain (by decide)
    · cases feed
  rw [unified, unify_line_ends_kept absent, String.ofList_toList]

theorem load_database_ok {path : Path}
    (ran : perform (loadDatabase path) w = (.ok db, after)) :
    Reloads db ∧ World.Keeps (fun _ => False) w after := by
  rw [loadDatabase, perform_bind_ok_iff] at ran
  obtain ⟨content, later, read, went⟩ := ran
  obtain ⟨text, _, rfl, rfl⟩ := (perform_read_text_ok_iff _).mp read
  simp only [perform_bind_ok_iff, perform_or_fail_ok_iff] at went
  obtain ⟨found, between, ⟨loaded, rfl⟩, _, noted, told, done⟩ := went
  cases done
  obtain rfl := noted_world told
  exact ⟨loaded_reloads loaded, World.keeps_notes _ _⟩

/-- The titles of all fields are text. -/
def Titled (db : Stored.Database) : Prop :=
  ∀ t ∈ db.tables.entries, ∀ f ∈ t.fields.entries, ∃ name, f.title = .text name

theorem load_titled (reloads : Reloads db) (titled : Titled db) :
    load (textOf db) = .ok db.settled := by
  refine load_text_reloads reloads fun t member f within none => ?_
  obtain ⟨name, text⟩ := titled t member f within
  cases text.symm.trans none

theorem settles_load_database {path : Path} (reloads : Reloads db) (titled : Titled db)
    (there : w.read path = .ok (textOf db)) : Settles (loadDatabase path) w db.settled := by
  have loaded : load (unified (textOf db)) = .ok db.settled := by
    rw [unified_text reloads, load_titled reloads titled]
  refine settles_bind (a := unified (textOf db)) ?_ ?_
  · exact settles_bind (settles_read there _) (settles_pure _ _)
  · rw [loaded]
    exact settles_bind (settles_or_fail _ _ _) (settles_bind (settles_note _ _) (settles_pure _ _))

theorem read_schema_ok {path : Path} {title : String} {declared : Database}
    (ran : perform (readSchema path title) w = (.ok declared, after)) :
    Reloads (Stored.ofDatabase declared) ∧ World.Keeps (fun _ => False) w after := by
  rw [readSchema, perform_bind_ok_iff] at ran
  obtain ⟨content, later, read, went⟩ := ran
  obtain ⟨text, _, rfl, rfl⟩ := (perform_read_text_ok_iff _).mp read
  simp only [perform_bind_ok_iff, perform_notes, perform_or_fail_ok_iff] at went
  obtain ⟨_, between, told, parsed, rfl⟩ := went
  cases told
  exact ⟨parsed_reloads parsed, World.keeps_notes _ _⟩

theorem declared_ok {path : Path}
    (ran : perform (do return Stored.ofDatabase (← readSchema path)) w = (.ok db, after)) :
    Reloads db ∧ World.Keeps (fun _ => False) w after := by
  rw [perform_bind_ok_iff] at ran
  obtain ⟨declared, later, read, done⟩ := ran
  cases done
  exact read_schema_ok read

/-- A snapshot that cannot be read changes nothing, either. -/
theorem load_database_keeps (path : Path) (w : World) :
    World.Keeps (fun _ => False) w (perform (loadDatabase path) w).2 := by
  have same := read_text_world path (.notFound path) w
  rw [loadDatabase, perform_bind]
  cases outcome : perform (Job.readText path (.notFound path)) w with
  | mk result later =>
    rw [outcome] at same
    obtain rfl : later = w := same
    cases result with
    | error failure => exact World.keeps_refl
    | ok content =>
        simp only [perform_bind, perform_or_fail]
        cases load content with
        | error failure => exact World.keeps_refl
        | ok found => exact World.keeps_notes _ _

theorem load_schema_ok {reload : Bool}
    (ran : perform (loadSchema settings reload) w = (.ok db, after)) :
    Reloads db ∧ World.Keeps (fun _ => False) w after := by
  cases reload with
  | true => exact declared_ok ran
  | false =>
      have kept := load_database_keeps settings.snapshotPath w
      simp only [loadSchema, Bool.not_false, if_true, perform_bind, perform_outcome] at ran
      cases outcome : perform (loadDatabase settings.snapshotPath) w with
      | mk result later =>
        rw [outcome] at ran kept
        cases result with
        | ok found =>
            cases ran
            exact load_database_ok outcome
        | error failure =>
            cases failure with
            | storage error =>
                -- Only such a failure is passed over; the note that is left of it is no file.
                simp only [perform_bind, perform_note] at ran
                rw [← perform_bind] at ran
                obtain ⟨reloads, later⟩ := declared_ok ran
                refine ⟨reloads, World.keeps_trans kept ?_⟩
                exact World.keeps_trans (World.keeps_notes _ _) later
            | _ => cases ran

theorem settles_load_schema (reloads : Reloads db) (titled : Titled db)
    (there : w.read settings.snapshotPath = .ok (textOf db)) :
    Settles (loadSchema settings false) w db.settled :=
  settles_bind (settles_outcome (settles_load_database reloads titled there)) (settles_pure _ _)

theorem save_database_ok {path saved : Path}
    (ran : perform (saveDatabase db path) w = (.ok saved, after)) :
    isOrdered db = true ∧ after.HasFolder path.parent ∧ after.read path = .ok (textOf db) ∧
      World.Keeps (· = path.destination w.folder) w after := by
  simp only [saveDatabase, perform_bind_ok_iff, perform_make_folders_ok_iff] at ran
  obtain ⟨_, between, made, went⟩ := ran
  cases ordered : isOrdered db with
  | false =>
      simp only [dump?, ordered] at went
      cases went
  | true =>
      simp only [dump?, ordered, if_true, perform_bind_ok_iff, perform_write_ok_iff] at went
      obtain ⟨_, later, wrote, _, noted, told, done⟩ := went
      cases done
      obtain rfl := noted_world told
      obtain ⟨there, grown⟩ := World.make_folders_ok made
      obtain ⟨held, kept⟩ := World.write_ok wrote
      rw [grown.folder] at kept
      have stays := World.has_folder_kept kept there
      exact ⟨rfl, stays, held,
        World.keeps_trans grown (World.keeps_trans kept (World.keeps_notes _ _))⟩

theorem leads_save_database {path : Path} (ordered : isOrdered db = true)
    (folder : w.HasFolder path.parent) (wrote : w.write path (textOf db) = (.ok (), after)) :
    Leads (saveDatabase db path) w after path := by
  rw [saveDatabase]
  refine leads_bind (settles_make_folders folder _) ?_
  rw [dump?, ordered]
  exact leads_bind (leads_write wrote _) (settles_bind (settles_note _ _) (settles_pure _ _))

/-! Types -/

/-- The file of a table holds its types. -/
def Exported (w : World) (folder : Path) (t : Stored.Table) : Prop :=
  ∃ text, renderTable t = .ok text ∧ w.read (typesPath folder t) = .ok text

theorem write_table_ok {folder path : Path} {t : Stored.Table}
    (ran : perform (writeTable folder t) w = (.ok path, after)) :
    Exported after folder t ∧
      World.Keeps (· = (typesPath folder t).destination w.folder) w after := by
  simp only [writeTable, perform_bind_ok_iff, perform_or_fail_ok_iff, perform_write_ok_iff] at ran
  obtain ⟨text, later, ⟨rendered, rfl⟩, _, last, wrote, done⟩ := ran
  cases done
  obtain ⟨held, kept⟩ := World.write_ok wrote
  exact ⟨⟨text, rendered, held⟩, kept⟩

theorem settles_write_table {folder : Path} {t : Stored.Table} (there : Exported w folder t) :
    Settles (writeTable folder t) w (typesPath folder t) := by
  obtain ⟨text, rendered, held⟩ := there
  rw [writeTable, rendered]
  refine settles_bind (settles_or_fail _ _ _) ?_
  exact settles_bind (settles_write held _) (settles_pure _ _)

/-- Where the files of tables lie. -/
def typePlaces (start : Location) (folder : Path) (tables : List Stored.Table) : List Location :=
  tables.map fun t => (typesPath folder t).destination start

theorem exported_kept {changed : Location → Prop} {folder : Path} {t : Stored.Table}
    (kept : World.Keeps changed w after)
    (apart : ¬ changed ((typesPath folder t).destination w.folder)) (there : Exported w folder t) :
    Exported after folder t := by
  obtain ⟨text, rendered, held⟩ := there
  exact ⟨text, rendered, World.read_kept kept apart held⟩

/-- When no table has failed, the first one is written and then the others. -/
theorem write_tables_cons_ok {folder : Path} {t : Stored.Table} {rest : List Stored.Table}
    {written : List Path}
    (ran : perform (writeTables folder (t :: rest)) w = (.ok (written, none), after)) :
    ∃ path later others, perform (writeTable folder t) w = (.ok path, later) ∧
      perform (writeTables folder rest) later = (.ok (others, none), after) := by
  rw [writeTables, perform_bind_ok_iff] at ran
  obtain ⟨outcome, later, tried, went⟩ := ran
  rw [perform_outcome] at tried
  cases outcome with
  | error failure =>
      -- The failure of a table is the last one or stands behind a later one.
      simp only at went
      split at went
      · cases went
      · simp only [perform_bind_ok_iff] at went
        obtain ⟨_, _, _, _, _, _, done⟩ := went
        cases done
  | ok path =>
      have wrote : perform (writeTable folder t) w = (.ok path, later) := by
        obtain ⟨same, rfl⟩ := Prod.mk.inj tried
        rw [← Except.ok.inj same]
      rw [perform_bind_ok_iff] at went
      obtain ⟨⟨others, last⟩, final, ran, done⟩ := went
      cases done
      exact ⟨path, later, others, wrote, ran⟩

/-- When no table has failed, each of them has its file. -/
theorem write_tables_ok {folder : Path} {tables : List Stored.Table} {written : List Path}
    (ran : perform (writeTables folder tables) w = (.ok (written, none), after))
    (apart : (typePlaces w.folder folder tables).Nodup) :
    (∀ t ∈ tables, Exported after folder t) ∧
      World.Keeps (· ∈ typePlaces w.folder folder tables) w after := by
  induction tables generalizing w written with
  | nil =>
      cases ran
      exact ⟨by simp, World.keeps_refl⟩
  | cons t rest ih =>
      rw [typePlaces, List.map_cons, List.nodup_cons] at apart
      obtain ⟨path, later, others, wrote, went⟩ := write_tables_cons_ok ran
      obtain ⟨exported, kept⟩ := write_table_ok wrote
      have same : typePlaces later.folder folder rest = typePlaces w.folder folder rest := by
        rw [kept.folder]
      obtain ⟨each, grown⟩ := ih went (by rw [same]; exact apart.2)
      rw [same] at grown
      constructor
      · intro other member
        rcases List.mem_cons.mp member with rfl | among
        · refine exported_kept grown ?_ exported
          rw [kept.folder]
          exact apart.1
        · exact each other among
      · refine World.keeps_trans (World.keeps_widen kept ?_) (World.keeps_widen grown ?_)
        · exact fun place here => List.mem_cons.mpr (Or.inl here)
        · exact fun place among => List.mem_cons_of_mem _ among

theorem settles_write_tables {folder : Path} {tables : List Stored.Table}
    (there : ∀ t ∈ tables, Exported w folder t) :
    Settles (writeTables folder tables) w (tables.map (typesPath folder), none) := by
  induction tables with
  | nil => exact settles_pure _ _
  | cons t rest ih =>
      have first := settles_outcome (settles_write_table (there t (by simp)))
      have others := ih fun other member => there other (List.mem_cons_of_mem t member)
      exact settles_bind first (settles_bind others (settles_pure _ _))

theorem write_types_ok {folder : Path} {written : List Path}
    (ran : perform (writeTypes db folder) w = (.ok written, after))
    (apart : (typePlaces w.folder folder db.tables.entries).Nodup) :
    after.HasFolder folder ∧ (∀ t ∈ db.tables.entries, Exported after folder t) ∧
      World.Keeps (· ∈ typePlaces w.folder folder db.tables.entries) w after := by
  simp only [writeTypes, perform_bind_ok_iff, perform_make_folders_ok_iff] at ran
  obtain ⟨_, between, made, ⟨paths, last⟩, later, wrote, told⟩ := ran
  cases last with
  | some failure => cases told
  | none =>
      simp only [perform_bind_ok_iff] at told
      obtain ⟨_, noted, told, done⟩ := told
      cases done
      obtain rfl := noted_world told
      obtain ⟨there, grown⟩ := World.make_folders_ok made
      rw [← grown.folder] at apart ⊢
      obtain ⟨each, kept⟩ := write_tables_ok wrote apart
      have stays := World.has_folder_kept kept there
      exact ⟨stays, each, World.keeps_trans grown (World.keeps_trans kept (World.keeps_notes _ _))⟩

theorem settles_write_types {folder : Path} (made : w.HasFolder folder)
    (there : ∀ t ∈ db.tables.entries, Exported w folder t) :
    Settles (writeTypes db folder) w (db.tables.entries.map (typesPath folder)) :=
  settles_bind (settles_make_folders made _) (settles_bind (settles_write_tables there)
    (settles_bind (settles_note _ _) (settles_pure _ _)))

/-! Setting up -/

/-- The places of the files that a run writes, of the settings first and the snapshot next. -/
def places (start : Location) (file : Option Path) (settings : Settings) (db : Stored.Database) :
    List Location :=
  (settingsPath file).destination start :: (settings.snapshotPath : Path).destination start ::
    typePlaces start settings.typePath db.tables.entries

/-- What a run leaves. -/
structure SetUp (w : World) (file : Option Path) (schemaPath : Option String)
    (settings : Settings) (db : Stored.Database) : Prop where
  reloads : Reloads db
  ordered : isOrdered db = true
  configured : Configured w (settingsPath file) schemaPath settings
  snapshotFolder : w.HasFolder (settings.snapshotPath : Path).parent
  snapshot : w.read settings.snapshotPath = .ok (textOf db)
  typeFolder : w.HasFolder settings.typePath
  types : ∀ t ∈ db.tables.entries, Exported w settings.typePath t

section Runs

variable {file : Option Path} {schemaPath : Option String}

theorem configured_kept {changed : Location → Prop} {path : Path}
    (kept : World.Keeps changed w after) (apart : ¬ changed (path.destination w.folder))
    (there : Configured w path schemaPath settings) :
    Configured after path schemaPath settings := by
  obtain ⟨text, own, held, told⟩ := there
  exact ⟨text, own, World.read_kept kept apart held, told⟩

theorem init_ok {reload : Bool}
    (ran : perform (init file schemaPath reload) w = (.ok db, after))
    (resolved : (perform (Settings.resolve file schemaPath) w).1 = .ok settings)
    (apart : (places w.folder file settings db).Nodup) :
    SetUp after file schemaPath settings db ∧ after.folder = w.folder := by
  simp only [init, perform_bind_ok_iff] at ran
  obtain ⟨own, ready, told, found, loaded, chosen, _, saved, stored, _, last, exported, done⟩ := ran
  cases done
  obtain rfl : own = settings := by
    rw [told] at resolved
    exact Except.ok.inj resolved
  obtain ⟨configured, first⟩ := resolve_ok told
  obtain ⟨reloads, second⟩ := load_schema_ok chosen
  obtain ⟨ordered, snapshotFolder, snapshot, third⟩ := save_database_ok stored
  -- Paths start in the same folder all along.
  have ready_folder : ready.folder = w.folder := first.folder
  have loaded_folder : loaded.folder = w.folder := second.folder.trans ready_folder
  have saved_folder : saved.folder = w.folder := third.folder.trans loaded_folder
  simp only [places, List.nodup_cons, List.mem_cons, not_or] at apart
  obtain ⟨⟨apart_snapshot, apart_types⟩, snapshot_types, types⟩ := apart
  obtain ⟨typeFolder, each, fourth⟩ := write_types_ok exported (by rw [saved_folder]; exact types)
  refine ⟨⟨reloads, ordered, ?_, World.has_folder_kept fourth snapshotFolder, ?_, typeFolder, each⟩,
    fourth.folder.trans saved_folder⟩
  · have stays := configured_kept second (by simp) configured
    have stays := configured_kept third (by rw [loaded_folder]; exact apart_snapshot) stays
    exact configured_kept fourth (by rw [saved_folder]; exact apart_types) stays
  · exact World.read_kept fourth (by rw [saved_folder]; exact snapshot_types) snapshot

theorem set_up_titled (ready : SetUp w file schemaPath settings db) : Titled db := by
  intro t member
  obtain ⟨text, rendered, _⟩ := ready.types t member
  exact Stored.render_table_fields rendered

theorem set_up_settled (ready : SetUp w file schemaPath settings db) : Reloads db.settled :=
  loaded_reloads (load_titled ready.reloads (set_up_titled ready))

theorem type_places_settled (start : Location) (folder : Path) (db : Stored.Database) :
    typePlaces start folder db.settled.tables.entries =
      typePlaces start folder db.tables.entries := by
  rw [typePlaces, Stored.database_settled_entries, List.map_map]
  rfl

/-- The next run is set up in the world in which it saves the snapshot. -/
theorem set_up_saved (ready : SetUp w file schemaPath settings db)
    (apart : (places w.folder file settings db).Nodup)
    (wrote : w.write settings.snapshotPath (textOf db.settled) = (.ok (), after)) :
    SetUp after file schemaPath settings db.settled := by
  obtain ⟨held, kept⟩ := World.write_ok wrote
  simp only [places, List.nodup_cons, List.mem_cons, not_or] at apart
  obtain ⟨⟨apart_snapshot, _⟩, snapshot_types, _⟩ := apart
  refine ⟨set_up_settled ready, (settled_ordered db).trans ready.ordered,
    configured_kept kept apart_snapshot ready.configured,
    World.has_folder_kept kept ready.snapshotFolder, held,
    World.has_folder_kept kept ready.typeFolder, ?_⟩
  rw [Stored.database_settled_entries]
  intro settled member
  obtain ⟨t, among, rfl⟩ := List.mem_map.mp member
  -- The types are not where the snapshot is, and settled flags do not show in them.
  have place : (typesPath settings.typePath t).destination w.folder ≠
      (settings.snapshotPath : Path).destination w.folder := by
    intro same
    exact snapshot_types (same ▸ List.mem_map_of_mem among)
  obtain ⟨text, rendered, file⟩ := exported_kept kept place (ready.types t among)
  exact ⟨text, (Stored.render_table_settled t).trans rendered, file⟩

theorem leads_init (ready : SetUp w file schemaPath settings db)
    (apart : (places w.folder file settings db).Nodup)
    (wrote : w.write settings.snapshotPath (textOf db.settled) = (.ok (), after)) :
    Leads (init file schemaPath false) w after db.settled := by
  have saved := set_up_saved ready apart wrote
  refine leads_bind (settles_resolve ready.configured) ?_
  refine leads_bind (settles_load_schema ready.reloads (set_up_titled ready) ready.snapshot) ?_
  refine leads_bind (leads_save_database saved.ordered ready.snapshotFolder wrote) ?_
  exact settles_bind (settles_write_types saved.typeFolder saved.types) (settles_pure _ _)

theorem places_settled (apart : (places w.folder file settings db).Nodup) :
    (places w.folder file settings db.settled).Nodup := by
  rwa [places, type_places_settled]

/-- What a run leaves makes the next one come to the settled database, and write the snapshot
alone. -/
theorem next_run (ready : SetUp w file schemaPath settings db)
    (apart : (places w.folder file settings db).Nodup) :
    (perform (loadDatabase settings.snapshotPath) w).1 = .ok db.settled ∧
      ∃ next, perform (init file schemaPath false) w = (.ok db.settled, next) ∧
        SetUp next file schemaPath settings db.settled ∧
        World.Rewrites (· = (settings.snapshotPath : Path).destination w.folder) w next ∧
        (db.settled = db → next.tree = w.tree) := by
  have writable := World.writable_of_read ready.snapshot
  have wrote := World.write_writable writable (textOf db.settled)
  have rewrites := World.rewrites_with_file writable (textOf db.settled)
  have saved := set_up_saved ready apart wrote
  obtain ⟨_, loaded⟩ :=
    settles_load_database ready.reloads (set_up_titled ready) ready.snapshot w.notes
  obtain ⟨notes, again⟩ := leads_init ready apart wrote w.notes
  refine ⟨congrArg Prod.fst loaded, _, again, ?_, ⟨rewrites.folder, rewrites.tree⟩, ?_⟩
  · exact ⟨saved.reloads, saved.ordered, saved.configured, saved.snapshotFolder, saved.snapshot,
      saved.typeFolder, saved.types⟩
  · intro settled
    rw [settled, World.write_again ready.snapshot] at wrote
    rw [settled]
    exact congrArg (World.tree ∘ Prod.snd) wrote.symm

end Runs

/-- A run that succeeds leaves a snapshot that is loaded as its database with the flags settled, and
the types of every table in a file. A second run with the same arguments comes to that database and
writes no file but the snapshot, a third one leaves all files as they are. Where no flag is null, as
in any database of a dump, the second run does so already. For this the files of settings, snapshot
and types have to be different ones. -/
theorem init_again {file : Option Path} {schemaPath : Option String} {reload : Bool}
    {w first : World} (ran : perform (init file schemaPath reload) w = (.ok db, first))
    (resolved : (perform (Settings.resolve file schemaPath) w).1 = .ok settings)
    (apart : (places w.folder file settings db).Nodup) :
    (perform (loadDatabase settings.snapshotPath) first).1 = .ok db.settled ∧
      (∀ t ∈ db.tables.entries, ∃ text, renderTable t = .ok text ∧
        first.read (typesPath settings.typePath t) = .ok text) ∧
      ∃ second, perform (init file schemaPath false) first = (.ok db.settled, second) ∧
        second.read settings.snapshotPath = .ok (textOf db.settled) ∧
        (∀ location, location ≠ (settings.snapshotPath : Path).destination w.folder →
          second.file? location = first.file? location) ∧
        (db.settled = db → second.tree = first.tree) ∧
        (∀ declared, db = Stored.ofDatabase declared → db.settled = db) ∧
        ∃ third, perform (init file schemaPath false) second = (.ok db.settled, third) ∧
          third.tree = second.tree := by
  obtain ⟨ready, placed⟩ := init_ok ran resolved apart
  rw [← placed] at apart ⊢
  obtain ⟨loaded, second, again, left, rewrites, same⟩ := next_run ready apart
  have folder := rewrites.folder
  -- The database is settled by now, so the third run writes what is there.
  obtain ⟨_, third, last, _, _, kept⟩ := next_run left (folder ▸ places_settled apart)
  rw [Stored.database_settled_again] at last kept
  refine ⟨loaded, ready.types, second, again, left.snapshot, rewrites.tree.files, same, ?_,
    third, last, kept rfl⟩
  rintro declared rfl
  exact Stored.of_database_settled declared

/-- The files of a first run are all different. -/
def apartIn (w : World) : Bool :=
  (perform (init none none false) w).1.toOption.any fun db =>
    decide (places w.folder none {} db).Nodup

theorem apart_run (apart : apartIn w = true) : ∃ db first,
    perform (init none none false) w = (.ok db, first) ∧ (places w.folder none {} db).Nodup := by
  unfold apartIn at apart
  generalize perform (init none none false) w = run at apart
  obtain ⟨result, first⟩ := (run : Except Failure Stored.Database × World)
  cases result with
  | error failure => cases apart
  | ok db => exact ⟨db, first, rfl, of_decide_eq_true apart⟩

/-- The snapshot is no JSON, so that the first run reads the dump. It writes default settings. -/
theorem init_again_shop :
    ∃ db first, perform (init none none false) (shopWorld "") = (.ok db, first) ∧
      (perform (loadDatabase (Settings.snapshotPath {})) first).1 = .ok db.settled ∧
      (∀ t ∈ db.tables.entries, ∃ text, renderTable t = .ok text ∧
        first.read (typesPath (Settings.typePath {}) t) = .ok text) ∧
      ∃ second, perform (init none none false) first = (.ok db.settled, second) ∧
        ∃ third, perform (init none none false) second = (.ok db.settled, third) ∧
          third.tree = second.tree := by
  have told : (perform (Settings.resolve none none) (shopWorld "")).1.toOption = some {} := by
    decide +kernel
  have resolved : (perform (Settings.resolve none none) (shopWorld "")).1 = .ok {} :=
    (to_option_some_iff _ _).mp told
  obtain ⟨db, first, ran, apart⟩ := apart_run (w := shopWorld "") (by decide +kernel)
  obtain ⟨loaded, types, second, again, _, _, _, _, third, last, same⟩ :=
    init_again ran resolved apart
  exact ⟨db, first, ran, loaded, types, second, again, third, last, same⟩

/-- A snapshot in which the flag of a column is null. -/
def nullText : String :=
  (shopSnapshot [("fields", .array [.object [("title", .string "a"),
    ("datatype", .string "signed64"), ("primary", .null)]])]).compact

/-- Whether the primary flags of the columns are null. -/
def nullFlags (db : Stored.Database) : List Bool :=
  db.tables.entries.flatMap fun t => t.fields.entries.map (·.primary.isNull)

theorem null_flag_settles {db : Stored.Database} {first : World}
    (ran : perform (init none none false) (shopWorld nullText) = (.ok db, first)) :
    db.settled ≠ db ∧ textOf db.settled ≠ textOf db := by
  have found : ((perform (init none none false) (shopWorld nullText)).1.toOption.any fun db =>
      nullFlags db.settled != nullFlags db && textOf db.settled != textOf db) = true := by
    decide +kernel
  rw [ran] at found
  obtain ⟨flags, texts⟩ := (Bool.and_eq_true _ _).mp found
  refine ⟨fun same => ?_, bne_iff_ne.mp texts⟩
  rw [same] at flags
  simp at flags

/-- The flag is left out of the snapshot that is written, and comes back as false, which the second
run writes. -/
theorem init_again_null : ∃ db first,
    perform (init none none false) (shopWorld nullText) = (.ok db, first) ∧
      (places (shopWorld nullText).folder none {} db).Nodup ∧
      (perform (loadDatabase (Settings.snapshotPath {})) first).1 ≠ .ok db ∧
      (perform (init none none false) first).1 ≠ .ok db ∧
      (perform (init none none false) first).2.read (Settings.snapshotPath {}) ≠
        first.read (Settings.snapshotPath {}) := by
  have told : (perform (Settings.resolve none none) (shopWorld nullText)).1.toOption = some {} := by
    decide +kernel
  have resolved : (perform (Settings.resolve none none) (shopWorld nullText)).1 = .ok {} :=
    (to_option_some_iff _ _).mp told
  obtain ⟨db, first, ran, apart⟩ := apart_run (w := shopWorld nullText) (by decide +kernel)
  obtain ⟨settled, texts⟩ := null_flag_settles ran
  obtain ⟨ready, placed⟩ := init_ok ran resolved apart
  obtain ⟨loaded, second, again, left, _⟩ := next_run ready (placed ▸ apart)
  refine ⟨db, first, ran, apart, ?_, ?_, ?_⟩
  · rw [loaded]
    exact fun same => settled (Except.ok.inj same)
  · rw [again]
    exact fun same => settled (Except.ok.inj same)
  · rw [again, left.snapshot, ready.snapshot]
    exact fun same => texts (Except.ok.inj same)

end SchemaCompiler.Workspace
