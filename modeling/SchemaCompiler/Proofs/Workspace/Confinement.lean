import SchemaCompiler.Proofs.Workspace.Export

/-!
Where exports write. The title of a table may hold slashes, and is a path then: it can name steps
to parent folders, and one that begins with a slash replaces the folder. A file lies right in the
folder of its export, whichever this is, only if its path is level.
-/

namespace SchemaCompiler.Workspace

open Files Outcome
open Stored (moduleOf renderTable fileName)

variable {w : World} {folder : Path} {t : Stored.Table} {db : Stored.Database} {location : Location}

/-- The path of the file of a table, from the folder that it is written to. -/
def filePath (t : Stored.Table) : Path := Path.ofString (fileName t)

theorem types_path_destination (w : World) (folder : Path) (t : Stored.Table) :
    (typesPath folder t).destination w.folder =
      (filePath t).destination (folder.destination w.folder) :=
  Path.destination_join w.folder folder (filePath t)

theorem file_path_level_iff (t : Stored.Table) : IsLevel (filePath t) ↔
    ∀ (folder : Path) (w : World),
      LiesIn (folder.destination w.folder) ((typesPath folder t).destination w.folder) := by
  obtain ⟨name, last, plain⟩ := Path.of_string_ending t.title.shown ".ts" (by decide) (by decide)
  simp only [types_path_destination]
  rw [is_level_iff (p := filePath t) last plain]
  constructor
  · exact fun inside folder w => inside _
  · intro inside place
    exact inside ⟨.relative, []⟩ { folder := place }

theorem make_folders_world (cause : Refusal → StorageError) (w : World) (p : Path) :
    (perform (Job.makeFolders p cause) w).2 = (w.makeFolders p).2 := by
  have asked : perform (Job.makeFolders p cause) w =
      perform (Job.explain cause (w.makeFolders p).1) (w.makeFolders p).2 := by
    rw [Job.makeFolders, perform_bind]
    rfl
  rw [asked]
  cases (w.makeFolders p).1 with
  | ok made => rfl
  | error fault => cases fault <;> rfl

/-- An export ends where its folder could not be made, or where its tables leave off. -/
theorem write_types_tree (db : Stored.Database) (folder : Path) (w : World) :
    (perform (writeTypes db folder) w).2.tree = (w.makeFolders folder).2.tree ∨
      (perform (writeTypes db folder) w).2.tree =
        (perform (writeTables folder db.tables.entries) (w.makeFolders folder).2).2.tree := by
  have made := make_folders_world (.folderNotMade folder) w folder
  rw [writeTypes, perform_bind]
  generalize perform (Job.makeFolders folder (.folderNotMade folder)) w = ready at made ⊢
  obtain ⟨result, later⟩ := (ready : Except Failure Unit × World)
  obtain rfl : later = (w.makeFolders folder).2 := made
  cases result with
  | error failure => exact Or.inl rfl
  | ok done =>
      refine Or.inr ?_
      simp only [perform_bind]
      generalize perform (writeTables folder db.tables.entries) (w.makeFolders folder).2 = whole
      obtain ⟨outcome, after⟩ := (whole : Except Failure (List Path × Option Failure) × World)
      cases outcome with
      | error failure => rfl
      | ok reported =>
          obtain ⟨written, last⟩ := reported
          cases last with
          | some failure => rfl
          | none => rfl

/-- An export changes only files of its tables, however it ends. -/
theorem write_types_changes (changed :
      (perform (writeTypes db folder) w).2.file? location ≠ w.file? location) :
    ∃ t ∈ db.tables.entries, (∃ text, renderTable t = .ok text) ∧
      location = (typesPath folder t).destination w.folder := by
  have folders := World.make_folders_files w folder location
  by_cases within : Written (w.makeFolders folder).2 folder db.tables.entries location
  · obtain ⟨t, member, text, ⟨rendered, _⟩, place⟩ := within
    rw [World.make_folders_folder] at place
    exact ⟨t, member, ⟨text, rendered⟩, place⟩
  · have tables := (write_tables_rewrites _ folder db.tables.entries).tree.files location within
    refine absurd ?_ changed
    rcases write_types_tree db folder w with ended | ended
    · rw [World.file?, ended]
      exact folders
    · rw [World.file?, ended]
      exact tables.trans folders

theorem module_of_rendered {t : Stored.Table} {text : String}
    (rendered : renderTable t = .ok text) :
    ∃ types, moduleOf t = .ok types := by
  obtain ⟨types, made, _⟩ := (bind_ok_iff _ _ _).mp rendered
  exact ⟨types, made⟩

/-- Whatever the folder and the files are, an export stays in its folder where the paths of the
tables that have types are level; and no other path stays in every folder. -/
theorem export_confined (db : Stored.Database) :
    (∀ t ∈ db.tables.entries, IsLevel (filePath t) ↔ ∀ (folder : Path) (w : World),
      LiesIn (folder.destination w.folder) ((typesPath folder t).destination w.folder)) ∧
    ((∀ t ∈ db.tables.entries, (∃ types, moduleOf t = .ok types) → IsLevel (filePath t)) →
      ∀ (folder : Path) (w : World) (location : Location),
        (perform (writeTypes db folder) w).2.file? location ≠ w.file? location →
          LiesIn (folder.destination w.folder) location) := by
  refine ⟨fun t _ => file_path_level_iff t, ?_⟩
  intro level folder w location changed
  obtain ⟨t, member, ⟨_, rendered⟩, rfl⟩ := write_types_changes changed
  exact (file_path_level_iff t).mp (level t member (module_of_rendered rendered)) folder w

/-- Titles that hold no slash, and one whose steps lead back. -/
def levelDatabase : Stored.Database where
  title := .string "level"
  tables := ⟨[{ title := "user" }, { title := "logs/../day" }], by decide⟩

theorem export_confined_level :
    (∀ t ∈ levelDatabase.tables.entries, IsLevel (filePath t)) ∧
    ∀ (folder : Path) (w : World) (location : Location),
      (perform (writeTypes levelDatabase folder) w).2.file? location ≠ w.file? location →
        LiesIn (folder.destination w.folder) location := by
  have level : ∀ t ∈ levelDatabase.tables.entries, IsLevel (filePath t) := by decide +kernel
  exact ⟨level, (export_confined levelDatabase).2 fun t member _ => level t member⟩

def climbingDump : String := "CREATE TABLE `../x` (\n`id` int\n);"

/-- The file of this table lies beside the folder of types. -/
theorem export_escapes :
    ∃ db, (Ddl.readSchema climbingDump "Database").outcome = .ok db ∧
      (perform (writeTypes (Stored.ofDatabase db) "types") {}).2.file? ["x.ts"] ≠
        ({} : World).file? ["x.ts"] ∧
      ¬ LiesIn (Path.destination [] "types") ["x.ts"] := by
  obtain ⟨db, read⟩ : ∃ db, (Ddl.readSchema climbingDump "Database").outcome = .ok db :=
    exists_ok (by decide +kernel)
  have written : ((Ddl.readSchema climbingDump "Database").outcome.toOption.any fun db =>
      ((perform (writeTypes (Stored.ofDatabase db) "types") {}).2.file? ["x.ts"]).isSome) =
        true := by decide +kernel
  have place : Path.destination [] "types" = ["types"] := by decide +kernel
  refine ⟨db, read, ?_, ?_⟩
  · intro same
    rw [read] at written
    change ((perform (writeTypes (Stored.ofDatabase db) "types") {}).2.file? ["x.ts"]).isSome =
      true at written
    rw [same] at written
    cases written
  · rintro ⟨name, same⟩
    have sizes := congrArg List.length same
    rw [place] at sizes
    cases sizes

end SchemaCompiler.Workspace
