import Mathlib.Data.List.Nodup
import SchemaCompiler.Proofs.Files.Contents
import SchemaCompiler.Proofs.TypeScript.Stored
import SchemaCompiler.Proofs.Workspace.World

/-!
Exports into a folder. Whether the file of a table is written depends on this table alone: it has
to render, and nothing may stand in the way of its file. So a table that fails keeps no other one
back, and the export leaves what each table would have left by itself.
-/

namespace SchemaCompiler.Workspace

open Files Outcome
open Stored (renderTable renderDatabase fileName RenderFailure)

/-! Writing -/

namespace World

variable {w after last : World} {p : Path} {text : String} {location : Location}
variable {changed more : Location → Prop}

/-- What the file at a location holds. -/
def file? (w : World) (location : Location) : Option Content := w.tree.file? location

/-- Why no file can be written at a path. -/
def refusal? (w : World) (p : Path) : Option Refusal := w.tree.refusal? w.folder p

/-- The world with a file written at a path. -/
def withFile (w : World) (p : Path) (text : String) : World :=
  { w with tree := w.tree.set (p.destination w.folder) (.file text) }

theorem write_eq (w : World) (p : Path) (text : String) :
    w.write p text =
      if p.hasNul then (.error .nulInPath, w)
      else match w.refusal? p with
        | some refusal => (.error (.refused refusal), w)
        | none => (.ok (), w.withFile p text) := by
  rw [write, checked, Tree.write_eq, refusal?]
  cases p.hasNul with
  | true => rfl
  | false =>
      cases w.tree.refusal? w.folder p with
      | some refusal => rfl
      | none => rfl

theorem writable_iff : w.Writable p ↔ p.hasNul = false ∧ w.refusal? p = none := by
  rw [Writable, refusal?, Tree.refusal_none_iff]
  constructor
  · rintro ⟨named, location, located, free⟩
    obtain rfl := Tree.locate_ok located
    exact ⟨named, located, free⟩
  · rintro ⟨named, located, free⟩
    exact ⟨named, _, located, free⟩

theorem write_writable (writable : w.Writable p) (text : String) :
    w.write p text = (.ok (), w.withFile p text) := by
  obtain ⟨named, free⟩ := writable_iff.mp writable
  rw [write_eq, named, free]
  rfl

/-- A file that can be read can be written. -/
theorem writable_of_read (there : w.read p = .ok text) : w.Writable p := by
  obtain ⟨named, held⟩ := read_ok_iff.mp there
  obtain ⟨located, node⟩ := Tree.read_ok_iff.mp held
  exact ⟨named, _, located, by simp [node]⟩

/-- Nothing but files at the given places was written. -/
structure Rewrites (changed : Location → Prop) (w after : World) : Prop where
  folder : after.folder = w.folder
  tree : Tree.Rewrites changed w.tree after.tree

theorem rewrites_refl : Rewrites changed w w := ⟨rfl, Tree.rewrites_refl⟩

theorem rewrites_trans (first : Rewrites changed w after) (second : Rewrites changed after last) :
    Rewrites changed w last :=
  ⟨second.folder.trans first.folder, Tree.rewrites_trans first.tree second.tree⟩

theorem rewrites_widen (rewrites : Rewrites changed w after)
    (wider : ∀ location, changed location → more location) : Rewrites more w after :=
  ⟨rewrites.folder, Tree.rewrites_widen rewrites.tree wider⟩

theorem rewrites_notes (w : World) (notes : List Note) : Rewrites changed w { w with notes } :=
  ⟨rfl, Tree.rewrites_refl⟩

theorem rewrites_with_file (writable : w.Writable p) (text : String) :
    Rewrites (· = p.destination w.folder) w (w.withFile p text) :=
  ⟨rfl, Tree.rewrites_set (Tree.refusal_none_iff.mp (writable_iff.mp writable).2).2 text⟩

theorem file_with_file (writable : w.Writable p) (text : String) :
    (w.withFile p text).file? (p.destination w.folder) = some (.text text) := by
  have free := (Tree.refusal_none_iff.mp (writable_iff.mp writable).2).2
  refine Tree.file_set_self ?_ text
  intro root
  rw [root] at free
  exact free rfl

theorem writable_rewritten (rewrites : Rewrites changed w after) :
    after.Writable p ↔ w.Writable p := by
  rw [writable_iff, writable_iff, refusal?, refusal?, rewrites.folder,
    Tree.refusal_none_rewritten rewrites.tree]

theorem make_folders_files (w : World) (p : Path) (location : Location) :
    (w.makeFolders p).2.file? location = w.file? location := by
  rw [makeFolders]
  split
  · rfl
  · exact Tree.make_folders_files w.tree w.folder p location

theorem make_folders_folder (w : World) (p : Path) : (w.makeFolders p).2.folder = w.folder := by
  rw [makeFolders]
  split <;> rfl

theorem has_folder_rewritten (rewrites : Rewrites changed w after) :
    after.HasFolder p ↔ w.HasFolder p := by
  rw [HasFolder, HasFolder, rewrites.folder, Tree.is_folder_rewritten rewrites.tree]

theorem read_of_file (writable : w.Writable p)
    (held : w.file? (p.destination w.folder) = some (.text text)) : w.read p = .ok text := by
  obtain ⟨named, free⟩ := writable_iff.mp writable
  obtain ⟨located, _⟩ := Tree.refusal_none_iff.mp free
  exact read_ok_iff.mpr ⟨named, Tree.read_ok_iff.mpr ⟨located, Tree.file_some_iff.mp held⟩⟩

end World

variable {w later after : World} {folder : Path}
variable {t : Stored.Table} {tables rest : List Stored.Table}
variable {changed : Location → Prop}

/-! One table -/

/-- The table renders, and its file can be written. -/
def Succeeds (w : World) (folder : Path) (t : Stored.Table) (text : String) : Prop :=
  renderTable t = .ok text ∧ w.Writable (typesPath folder t)

/-- The design of the table cannot be rendered, or its file cannot be written. -/
inductive Fails (w : World) (folder : Path) (t : Stored.Table) : Failure → Prop
  | unrendered {error : InternalError} (failed : renderTable t = .error (.design error)) :
      Fails w folder t (.types (.design error))
  | unwritten {text : String} {refusal : Refusal} (rendered : renderTable t = .ok text)
      (named : (typesPath folder t).hasNul = false)
      (refused : w.refusal? (typesPath folder t) = some refusal) :
      Fails w folder t (.storage (.typesNotWritten (typesPath folder t) refusal))

/-- Rendering ends in a failure that is none of the design. -/
structure Escapes (t : Stored.Table) (failure : RenderFailure) : Prop where
  failed : renderTable t = .error failure
  foreign : ∀ error, failure ≠ .design error

/-- The design of a table, if anything, keeps it from being rendered. -/
def Designed (t : Stored.Table) : Prop := ∀ failure, ¬ Escapes t failure

/-- Tables of the schema are designed. -/
theorem of_table_designed (t : Table) : Designed (Stored.ofTable t) := by
  rintro failure ⟨failed, foreign⟩
  rw [Stored.render_table_of] at failed
  cases rendered : TypeScript.renderTable t with
  | error error =>
      rw [rendered] at failed
      exact foreign error (Except.error.inj failed).symm
  | ok text =>
      rw [rendered] at failed
      cases failed

theorem render_cases (designed : Designed t) :
    (∃ text, renderTable t = .ok text) ∨ ∃ error, renderTable t = .error (.design error) := by
  cases rendered : renderTable t with
  | ok text => exact .inl ⟨text, rfl⟩
  | error failure =>
      cases failure with
      | design error => exact .inr ⟨error, rfl⟩
      | illTyped => exact absurd ⟨rendered, nofun⟩ (designed .illTyped)
      | unencodable => exact absurd ⟨rendered, nofun⟩ (designed .unencodable)

theorem escapes_unworded {failure : RenderFailure} (escapes : Escapes t failure) :
    (Failure.types failure).message? = none := by
  cases failure with
  | design error => exact absurd rfl (escapes.foreign error)
  | illTyped => rfl
  | unencodable => rfl

theorem fails_worded {failure : Failure} (fails : Fails w folder t failure) :
    ∃ message, failure.message? = some message := by
  cases fails with
  | unrendered => exact ⟨_, rfl⟩
  | unwritten => exact ⟨_, rfl⟩

theorem fails_unique {failure other : Failure} (first : Fails w folder t failure)
    (second : Fails w folder t other) : failure = other := by
  cases first with
  | unrendered failed =>
      cases second with
      | unrendered again =>
          cases failed.symm.trans again
          rfl
      | unwritten rendered => cases failed.symm.trans rendered
  | unwritten rendered _ refused =>
      cases second with
      | unrendered failed => cases failed.symm.trans rendered
      | unwritten _ _ again =>
          cases refused.symm.trans again
          rfl

theorem succeeds_not_fails {text : String} {failure : Failure}
    (succeeds : Succeeds w folder t text) : ¬ Fails w folder t failure := by
  obtain ⟨rendered, writable⟩ := succeeds
  rintro (⟨failed⟩ | ⟨_, _, refused⟩)
  · cases failed.symm.trans rendered
  · rw [(World.writable_iff.mp writable).2] at refused
    cases refused

theorem succeeds_or_fails (designed : Designed t) (named : (typesPath folder t).hasNul = false) :
    (∃ text, Succeeds w folder t text) ∨ ∃ failure, Fails w folder t failure := by
  rcases render_cases designed with ⟨text, rendered⟩ | ⟨error, failed⟩
  · cases refused : w.refusal? (typesPath folder t) with
    | some refusal => exact Or.inr ⟨_, .unwritten rendered named refused⟩
    | none => exact Or.inl ⟨text, rendered, World.writable_iff.mpr ⟨named, refused⟩⟩
  · exact Or.inr ⟨_, .unrendered failed⟩

theorem perform_write (cause : Refusal → StorageError) (w : World) (p : Path) (text : String) :
    perform (Job.write p text cause) w =
      perform (Job.explain cause (w.write p text).1) (w.write p text).2 := by
  rw [Job.write, perform_bind]
  rfl

/-- A table that cannot be rendered changes nothing. -/
theorem write_table_unrendered {failure : RenderFailure} (failed : renderTable t = .error failure)
    (w : World) : perform (writeTable folder t) w = (.error (.types failure), w) := by
  rw [writeTable, failed]
  rfl

/-- A table is written, or it fails and changes nothing. What it fails with has no wording if its
path has a zero character or it is not for its design that it has no types. -/
theorem write_table_cases (w : World) (folder : Path) (t : Stored.Table) :
    (∃ text, Succeeds w folder t text ∧ perform (writeTable folder t) w =
      (.ok (typesPath folder t), w.withFile (typesPath folder t) text)) ∨
    (∃ failure, Fails w folder t failure ∧
      perform (writeTable folder t) w = (.error failure, w)) ∨
    (((∃ failure, Escapes t failure) ∨ (typesPath folder t).hasNul = true) ∧
      ∃ failure, failure.message? = none ∧
        perform (writeTable folder t) w = (.error failure, w)) := by
  by_cases escaped : ∃ failure, Escapes t failure
  · obtain ⟨failure, escapes⟩ := escaped
    exact Or.inr (Or.inr ⟨.inl ⟨failure, escapes⟩, .types failure, escapes_unworded escapes,
      write_table_unrendered escapes.failed w⟩)
  rcases render_cases (not_exists.mp escaped) with ⟨text, rendered⟩ | ⟨error, failed⟩
  · have ran : perform (writeTable folder t) w =
        perform (Job.write (typesPath folder t) text (.typesNotWritten (typesPath folder t)) >>=
          fun _ => pure (typesPath folder t)) w := by
      rw [writeTable, rendered]
      rfl
    rw [ran, perform_bind, perform_write, World.write_eq]
    cases named : (typesPath folder t).hasNul with
    | true => exact Or.inr (Or.inr ⟨.inr rfl, .files .nulInPath, rfl, rfl⟩)
    | false =>
        cases refused : w.refusal? (typesPath folder t) with
        | some refusal => exact Or.inr (Or.inl ⟨_, .unwritten rendered named refused, rfl⟩)
        | none => exact Or.inl ⟨text, ⟨rendered, World.writable_iff.mpr ⟨named, refused⟩⟩, rfl⟩
  · exact Or.inr (Or.inl ⟨_, .unrendered failed, write_table_unrendered failed w⟩)

theorem succeeds_rewritten {text : String} (rewrites : World.Rewrites changed w after) :
    Succeeds after folder t text ↔ Succeeds w folder t text := by
  rw [Succeeds, Succeeds, World.writable_rewritten rewrites]

/-! Tables one after the other -/

/-- The note of a table that failed. -/
def World.noted (w : World) (t : Stored.Table) (message : String) : World :=
  { w with notes := w.notes ++ [.error s!"Failed to export table {t.title.shown}: {message}"] }

theorem rewrites_noted (w : World) (t : Stored.Table) (message : String) :
    World.Rewrites (fun _ => False) w (w.noted t message) := World.rewrites_notes w _

theorem write_tables_written {path : Path}
    (wrote : perform (writeTable folder t) w = (.ok path, later)) :
    perform (writeTables folder (t :: rest)) w =
      ((perform (writeTables folder rest) later).1.map fun (paths, last) => (path :: paths, last),
        (perform (writeTables folder rest) later).2) := by
  rw [writeTables, perform_bind, perform_outcome, wrote]
  simp only [perform_bind]
  cases perform (writeTables folder rest) later with
  | mk result after => cases result <;> rfl

theorem write_tables_failed {failure : Failure} {message : String}
    (failed : perform (writeTable folder t) w = (.error failure, w))
    (worded : failure.message? = some message) :
    perform (writeTables folder (t :: rest)) w =
      ((perform (writeTables folder rest) (w.noted t message)).1.map
          fun (paths, last) => (paths, some (last.getD failure)),
        (perform (writeTables folder rest) (w.noted t message)).2) := by
  rw [writeTables, perform_bind, perform_outcome, failed]
  simp only [worded, perform_bind, perform_note, World.noted]
  generalize perform (writeTables folder rest) _ = ran
  obtain ⟨result, after⟩ := (ran : Except Failure (List Path × Option Failure) × World)
  cases result <;> rfl

theorem write_tables_stopped {failure : Failure}
    (failed : perform (writeTable folder t) w = (.error failure, w))
    (unworded : failure.message? = none) :
    perform (writeTables folder (t :: rest)) w = (.error failure, w) := by
  rw [writeTables, perform_bind, perform_outcome, failed]
  simp only [unworded]
  rfl

/-- Where the files of the tables that succeed lie. -/
def Written (w : World) (folder : Path) (tables : List Stored.Table) (location : Location) : Prop :=
  ∃ t ∈ tables, ∃ text, Succeeds w folder t text ∧
    location = (typesPath folder t).destination w.folder

theorem written_rewritten (rewrites : World.Rewrites changed w after) {location : Location} :
    Written after folder tables location ↔ Written w folder tables location := by
  simp only [Written, succeeds_rewritten rewrites, rewrites.folder]

/-- Only files of tables that succeed are written, whatever the tables are called. -/
theorem write_tables_rewrites (w : World) (folder : Path) (tables : List Stored.Table) :
    World.Rewrites (Written w folder tables) w (perform (writeTables folder tables) w).2 := by
  induction tables generalizing w with
  | nil => exact World.rewrites_refl
  | cons t rest ih =>
      have behind : ∀ place, Written w folder rest place → Written w folder (t :: rest) place := by
        rintro place ⟨u, member, found⟩
        exact ⟨u, List.mem_cons_of_mem t member, found⟩
      rcases write_table_cases w folder t with
        ⟨text, succeeds, wrote⟩ | ⟨failure, fails, failed⟩ | ⟨_, failure, unworded, stopped⟩
      · rw [write_tables_written wrote]
        have first := World.rewrites_with_file succeeds.2 text
        have others := World.rewrites_widen (ih _) fun place => (written_rewritten first).mp
        refine World.rewrites_trans (World.rewrites_widen first ?_)
          (World.rewrites_widen others behind)
        rintro place rfl
        exact ⟨t, by simp, text, succeeds, rfl⟩
      · obtain ⟨message, worded⟩ := fails_worded fails
        rw [write_tables_failed failed worded]
        have noted := rewrites_noted w t message
        have others := World.rewrites_widen (ih _) fun place => (written_rewritten noted).mp
        exact World.rewrites_trans (World.rewrites_notes w _) (World.rewrites_widen others behind)
      · rw [write_tables_stopped stopped unworded]
        exact World.rewrites_refl

/-! Tables with titles that can be names of files -/

/-- The title can be the name of a file, and nothing but the design keeps the table from being
rendered. -/
structure Steady (t : Stored.Table) : Prop where
  named : IsFileName t.title.shown
  designed : Designed t

theorem file_name_plain {title : String} (named : IsFileName title) :
    IsFileName (title ++ ".ts") := by
  have ending : '/' ∉ ".ts".toList ∧ '\x00' ∉ ".ts".toList := by decide
  simp only [IsFileName, String.toList_append, List.mem_append, not_or]
  exact ⟨⟨named.1, ending.1⟩, ⟨named.2, ending.2⟩⟩

/-- The ending keeps the name of a file apart from the short names that mean something else. -/
theorem file_name_apart (title : String) {short : String} (brief : short.length < 3) :
    title ++ ".ts" ≠ short := by
  rintro rfl
  have ending : ".ts".length = 3 := rfl
  rw [String.length_append, ending] at brief
  omega

theorem types_path_child (folder : Path) (named : IsFileName t.title.shown) :
    typesPath folder t = folder.child (fileName t) := by
  have one : Path.ofString (fileName t) = ⟨.relative, [fileName t]⟩ :=
    Path.of_string_name (file_name_plain named).1 (file_name_apart _ (by decide))
      (file_name_apart _ (by decide))
  rw [typesPath, one]
  rfl

theorem types_path_named (named : IsFileName t.title.shown) (there : w.HasFolder folder) :
    (typesPath folder t).hasNul = false := by
  have free := there.1
  have zero : (fileName t).toList.contains '\x00' = false := by
    simpa [fileName] using (file_name_plain named).2
  rw [types_path_child folder named]
  rw [Path.hasNul] at free ⊢
  rw [Path.child, List.any_append, free, List.any_cons, zero]
  rfl

/-- The place of the file of a table. -/
def filePlace (w : World) (folder : Path) (t : Stored.Table) : Location :=
  folder.destination w.folder ++ [fileName t]

theorem file_place_same (same : later.folder = w.folder) :
    filePlace later folder t = filePlace w folder t := by
  rw [filePlace, filePlace, same]

theorem types_path_place (named : IsFileName t.title.shown) :
    (typesPath folder t).destination w.folder = filePlace w folder t := by
  rw [types_path_child folder named]
  exact Path.destination_child (file_name_apart _ (by decide)) w.folder folder

/-- A table that has types has a string for its title. -/
theorem succeeds_title {text : String} (succeeds : Succeeds w folder t text) :
    ∃ title : String, t.title = title := Stored.render_table_title succeeds.1

/-- Tables whose titles are strings have files of their own. -/
theorem file_place_inj {u : Stored.Table} (titled : ∃ title : String, t.title = title)
    (other : ∃ title : String, u.title = title)
    (same : filePlace w folder t = filePlace w folder u) : t.title = u.title := by
  obtain ⟨title, titled⟩ := titled
  obtain ⟨second, other⟩ := other
  have names : fileName t = fileName u := by simpa [filePlace] using same
  have shown : t.title.shown = u.title.shown := (String.append_left_inj ".ts").mp names
  rw [titled, other, Stored.title_shown, Stored.title_shown] at shown
  rw [titled, other, shown]

theorem fails_alike {failure : Failure}
    (same : after.refusal? (typesPath folder t) = w.refusal? (typesPath folder t))
    (fails : Fails w folder t failure) : Fails after folder t failure := by
  cases fails with
  | unrendered failed => exact .unrendered failed
  | unwritten rendered named refused => exact .unwritten rendered named (same.trans refused)

theorem fails_rewritten {failure : Failure} (rewrites : World.Rewrites changed w after)
    (there : w.HasFolder folder) (named : IsFileName t.title.shown) :
    Fails after folder t failure ↔ Fails w folder t failure := by
  have same : after.refusal? (typesPath folder t) = w.refusal? (typesPath folder t) := by
    rw [types_path_child folder named, World.refusal?, World.refusal?, rewrites.folder]
    exact Tree.refusal_child_rewritten rewrites.tree there.2 (file_name_apart _ (by decide))
  exact ⟨fails_alike same.symm, fails_alike same⟩

/-- In a folder that is there, a steady table is written or fails with a wording. -/
theorem write_table_ends (steady : Steady t) (there : w.HasFolder folder) :
    (∃ text, Succeeds w folder t text ∧ perform (writeTable folder t) w =
      (.ok (typesPath folder t), w.withFile (typesPath folder t) text)) ∨
    ∃ failure message, Fails w folder t failure ∧ failure.message? = some message ∧
      perform (writeTable folder t) w = (.error failure, w) := by
  rcases write_table_cases w folder t with
    wrote | ⟨failure, fails, failed⟩ | ⟨⟨failure, escapes⟩ | zero, _⟩
  · exact Or.inl wrote
  · obtain ⟨message, worded⟩ := fails_worded fails
    exact Or.inr ⟨failure, message, fails, worded, failed⟩
  · exact absurd escapes (steady.designed failure)
  · rw [types_path_named steady.named there] at zero
    cases zero

/-- The failure of the last table that fails. -/
def LastFailure (w : World) (folder : Path) (tables : List Stored.Table)
    (failure : Failure) : Prop :=
  ∃ front t back, tables = front ++ t :: back ∧ Fails w folder t failure ∧
    ∀ u ∈ back, ∃ text, Succeeds w folder u text

theorem last_failure_cons_iff {failure : Failure} :
    LastFailure w folder (t :: rest) failure ↔ LastFailure w folder rest failure ∨
      (Fails w folder t failure ∧ ∀ u ∈ rest, ∃ text, Succeeds w folder u text) := by
  constructor
  · rintro ⟨front, u, back, split, fails, others⟩
    cases front with
    | nil =>
        cases split
        exact Or.inr ⟨fails, others⟩
    | cons first front =>
        cases split
        exact Or.inl ⟨front, u, back, rfl, fails, others⟩
  · rintro (⟨front, u, back, rfl, fails, others⟩ | ⟨fails, others⟩)
    · exact ⟨t :: front, u, back, rfl, fails, others⟩
    · exact ⟨[], t, rest, rfl, fails, others⟩

/-- Every table succeeds, or there is a last one that fails. -/
theorem all_succeed_or_last (steady : ∀ t ∈ tables, Steady t)
    (there : w.HasFolder folder) :
    (∀ t ∈ tables, ∃ text, Succeeds w folder t text) ∨
      ∃ failure, LastFailure w folder tables failure := by
  induction tables with
  | nil => exact Or.inl (by simp)
  | cons t rest ih =>
      rcases ih fun u member => steady u (List.mem_cons_of_mem t member) with all | ⟨failure, last⟩
      · rcases succeeds_or_fails (steady t (by simp)).designed
            (types_path_named (steady t (by simp)).named there) with
          succeeds | ⟨failure, fails⟩
        · exact Or.inl (List.forall_mem_cons.mpr ⟨succeeds, all⟩)
        · exact Or.inr ⟨failure, last_failure_cons_iff.mpr (Or.inr ⟨fails, all⟩)⟩
      · exact Or.inr ⟨failure, last_failure_cons_iff.mpr (Or.inl last)⟩

theorem exists_last_failure_iff (steady : ∀ t ∈ tables, Steady t)
    (there : w.HasFolder folder) :
    (∃ failure, LastFailure w folder tables failure) ↔
      ∃ t ∈ tables, ∃ failure, Fails w folder t failure := by
  constructor
  · rintro ⟨failure, front, t, back, rfl, fails, _⟩
    exact ⟨t, by simp, failure, fails⟩
  · rintro ⟨t, member, failure, fails⟩
    refine (all_succeed_or_last steady there).resolve_left ?_
    intro all
    obtain ⟨text, succeeds⟩ := all t member
    exact succeeds_not_fails succeeds fails

theorem last_failure_rewritten {failure : Failure} (rewrites : World.Rewrites changed w after)
    (there : w.HasFolder folder) (steady : ∀ t ∈ tables, Steady t) :
    LastFailure after folder tables failure ↔ LastFailure w folder tables failure := by
  have same : ∀ t ∈ tables, Fails after folder t failure ↔ Fails w folder t failure :=
    fun t member => fails_rewritten rewrites there (steady t member).named
  simp only [LastFailure, succeeds_rewritten rewrites]
  constructor
  · rintro ⟨front, t, back, rfl, fails, others⟩
    exact ⟨front, t, back, rfl, (same t (by simp)).mp fails, others⟩
  · rintro ⟨front, t, back, rfl, fails, others⟩
    exact ⟨front, t, back, rfl, (same t (by simp)).mpr fails, others⟩

/-- What is returned beside the paths is the failure of the last table that fails. -/
structure Reports (w : World) (folder : Path) (tables : List Stored.Table) (written : List Path)
    (last : Option Failure) : Prop where
  failed : ∀ failure, last = some failure ↔ LastFailure w folder tables failure
  paths : last = none → written = tables.map (typesPath folder)

section Reports

variable {written : List Path} {last : Option Failure} {failure : Failure}

theorem reports_all (reports : Reports w folder tables written none)
    (steady : ∀ t ∈ tables, Steady t) (there : w.HasFolder folder) :
    ∀ t ∈ tables, ∃ text, Succeeds w folder t text := by
  refine (all_succeed_or_last steady there).resolve_right ?_
  rintro ⟨failure, missed⟩
  cases (reports.failed failure).mpr missed

theorem reports_rewritten (reports : Reports after folder tables written last)
    (rewrites : World.Rewrites changed w after) (steady : ∀ t ∈ tables, Steady t)
    (there : w.HasFolder folder) : Reports w folder tables written last where
  failed failure :=
    (reports.failed failure).trans (last_failure_rewritten rewrites there steady)
  paths := reports.paths

theorem reports_written {text : String} (reports : Reports w folder rest written last)
    (succeeds : Succeeds w folder t text) :
    Reports w folder (t :: rest) (typesPath folder t :: written) last where
  failed failure := by
    rw [reports.failed, last_failure_cons_iff, or_iff_left]
    exact fun both => succeeds_not_fails succeeds both.1
  paths none := by rw [reports.paths none, List.map_cons]

theorem reports_failed (reports : Reports w folder rest written last)
    (fails : Fails w folder t failure) (steady : ∀ u ∈ rest, Steady u)
    (there : w.HasFolder folder) :
    Reports w folder (t :: rest) written (some (last.getD failure)) := by
  refine ⟨fun other => ?_, nofun⟩
  rw [last_failure_cons_iff, ← reports.failed]
  cases last with
  | some later =>
      -- A later table fails, so this failure is not the last one.
      obtain ⟨front, u, back, rfl, missed, _⟩ := (reports.failed later).mp rfl
      refine (or_iff_left ?_).symm
      rintro ⟨_, all⟩
      obtain ⟨text, succeeds⟩ := all u (by simp)
      exact succeeds_not_fails succeeds missed
  | none =>
      have all := reports_all reports steady there
      constructor
      · rintro ⟨⟩
        exact Or.inr ⟨fails, all⟩
      · rintro (⟨⟨⟩⟩ | ⟨alike, _⟩)
        exact congrArg some (fails_unique fails alike)

end Reports

theorem write_tables_reports (steady : ∀ t ∈ tables, Steady t)
    (there : w.HasFolder folder) :
    ∃ written last, (perform (writeTables folder tables) w).1 = .ok (written, last) ∧
      Reports w folder tables written last := by
  induction tables generalizing w with
  | nil =>
      refine ⟨[], none, rfl, ?_, fun _ => rfl⟩
      intro failure
      simp [LastFailure]
  | cons t rest ih =>
      obtain ⟨first_steady, later_steady⟩ := List.forall_mem_cons.mp steady
      rcases write_table_ends first_steady there with
        ⟨text, succeeds, wrote⟩ | ⟨failure, message, fails, worded, failed⟩
      · have first := World.rewrites_with_file succeeds.2 text
        obtain ⟨written, last, ran, reports⟩ :=
          ih later_steady ((World.has_folder_rewritten first).mpr there)
        have before := reports_rewritten reports first later_steady there
        refine ⟨typesPath folder t :: written, last, ?_, reports_written before succeeds⟩
        rw [write_tables_written wrote, ran]
        rfl
      · have noted := rewrites_noted w t message
        obtain ⟨written, last, ran, reports⟩ :=
          ih later_steady ((World.has_folder_rewritten noted).mpr there)
        have before := reports_rewritten reports noted later_steady there
        refine ⟨written, some (last.getD failure), ?_,
          reports_failed before fails later_steady there⟩
        rw [write_tables_failed failed worded, ran]
        rfl

/-- The files of tables with other titles lie elsewhere. -/
theorem place_not_written {text : String} (succeeds : Succeeds w folder t text)
    (steady : ∀ u ∈ rest, Steady u) (fresh : t.title.key ∉ rest.map fun u => u.title.key)
    (same : later.folder = w.folder) : ¬ Written later folder rest (filePlace w folder t) := by
  rintro ⟨u, among, other, written, place⟩
  rw [types_path_place (steady u among).named, file_place_same same] at place
  have titles := file_place_inj (succeeds_title succeeds) (succeeds_title written) place
  exact fresh (List.mem_map.mpr ⟨u, among, congrArg Scalar.key titles.symm⟩)

theorem write_tables_held (steady : ∀ t ∈ tables, Steady t) (there : w.HasFolder folder)
    (distinct : (tables.map fun t => t.title.key).Nodup) {text : String} (member : t ∈ tables)
    (succeeds : Succeeds w folder t text) :
    (perform (writeTables folder tables) w).2.file? (filePlace w folder t) = some text := by
  induction tables generalizing w with
  | nil => cases member
  | cons u rest ih =>
      obtain ⟨fresh, others⟩ := List.nodup_cons.mp distinct
      obtain ⟨first_steady, later_steady⟩ := List.forall_mem_cons.mp steady
      -- The rest is reached in a world with the same folders, where the table succeeds as before.
      have left {changed : Location → Prop} {later : World}
          (first : World.Rewrites changed w later) (after : t ∈ rest) :
          (perform (writeTables folder rest) later).2.file? (filePlace w folder t) =
            some text := by
        rw [← file_place_same first.folder]
        exact ih later_steady ((World.has_folder_rewritten first).mpr there) others after
          ((succeeds_rewritten first).mpr succeeds)
      rcases write_table_ends first_steady there with
        ⟨written, made, wrote⟩ | ⟨failure, message, fails, worded, failed⟩
      · rw [write_tables_written wrote]
        have first := World.rewrites_with_file made.2 written
        rcases List.mem_cons.mp member with rfl | after
        · have once : written = text := Except.ok.inj (made.1.symm.trans succeeds.1)
          have apart : ¬ Written _ folder rest (filePlace w folder t) :=
            place_not_written succeeds later_steady fresh first.folder
          rw [World.file?, (write_tables_rewrites _ folder rest).tree.files _ apart,
            ← types_path_place first_steady.named, ← once]
          exact World.file_with_file made.2 written
        · exact left first after
      · rw [write_tables_failed failed worded]
        rcases List.mem_cons.mp member with rfl | after
        · exact absurd fails (succeeds_not_fails succeeds)
        · exact left (rewrites_noted w u message) after

theorem write_tables_read (steady : ∀ t ∈ tables, Steady t) (there : w.HasFolder folder)
    (distinct : (tables.map fun t => t.title.key).Nodup) {text : String} (member : t ∈ tables)
    (succeeds : Succeeds w folder t text) :
    (perform (writeTables folder tables) w).2.read (typesPath folder t) = .ok text := by
  have rewrites := write_tables_rewrites w folder tables
  refine World.read_of_file ((World.writable_rewritten rewrites).mpr succeeds.2) ?_
  rw [rewrites.folder, types_path_place (steady t member).named]
  exact write_tables_held steady there distinct member succeeds

theorem write_tables_kept (steady : ∀ t ∈ tables, Steady t) {location : Location}
    (apart : ∀ t ∈ tables, ∀ text, Succeeds w folder t text → location ≠ filePlace w folder t) :
    (perform (writeTables folder tables) w).2.file? location = w.file? location := by
  refine (write_tables_rewrites w folder tables).tree.files location ?_
  rintro ⟨t, member, text, succeeds, same⟩
  rw [types_path_place (steady t member).named] at same
  exact apart t member text succeeds same

/-- The first table that escapes ends the work. -/
theorem write_tables_stops {before behind : List Stored.Table} {failure : RenderFailure}
    (steady : ∀ u ∈ before, Steady u) (there : w.HasFolder folder) (escapes : Escapes t failure) :
    perform (writeTables folder (before ++ t :: behind)) w =
      (.error (.types failure), (perform (writeTables folder before) w).2) := by
  induction before generalizing w with
  | nil =>
      exact write_tables_stopped (write_table_unrendered escapes.failed w)
        (escapes_unworded escapes)
  | cons u rest ih =>
      obtain ⟨first_steady, later_steady⟩ := List.forall_mem_cons.mp steady
      -- A table in front is written, or fails and is noted; the folder stays either way.
      rcases write_table_ends first_steady there with
        ⟨text, succeeds, wrote⟩ | ⟨failure, message, fails, worded, failed⟩
      · have first := World.rewrites_with_file succeeds.2 text
        have later := ih later_steady ((World.has_folder_rewritten first).mpr there)
        rw [List.cons_append, write_tables_written wrote, write_tables_written wrote, later]
        rfl
      · have noted := rewrites_noted w u message
        have later := ih later_steady ((World.has_folder_rewritten noted).mpr there)
        rw [List.cons_append, write_tables_failed failed worded, write_tables_failed failed worded,
          later]
        rfl

/-! Whole exports -/

/-- What is left of the export of tables, each of which counts for itself. The world `made` has the
folder, and is otherwise as it was. -/
structure Leaves (tables : List Stored.Table) (folder : Path) (w made after : World) : Prop where
  either : ∀ t ∈ tables,
    (∃ text, Succeeds made folder t text) ↔ ¬ ∃ failure, Fails made folder t failure
  held : ∀ t ∈ tables, ∀ text, Succeeds made folder t text →
    after.file? (filePlace w folder t) = some (.text text) ∧
      after.read (typesPath folder t) = .ok text
  kept : ∀ location, (∀ t ∈ tables, ∀ text, Succeeds made folder t text →
    location ≠ filePlace w folder t) → after.file? location = w.file? location
  spared : ∀ t ∈ tables, ∀ title : String, t.title = title →
    ∀ failure, Fails made folder t failure →
      after.file? (filePlace w folder t) = w.file? (filePlace w folder t)

theorem folder_made {made : World} (ready : w.makeFolders folder = (.ok (), made)) :
    made.HasFolder folder := by
  obtain ⟨there, _⟩ : made.HasFolder folder ∧ World.Keeps (fun _ => False) w made :=
    World.make_folders_ok ready
  exact there

theorem tables_leave {made : World} (steady : ∀ t ∈ tables, Steady t)
    (ready : w.makeFolders folder = (.ok (), made))
    (distinct : (tables.map fun t => t.title.key).Nodup) :
    Leaves tables folder w made (perform (writeTables folder tables) made).2 := by
  obtain ⟨there, kept⟩ : made.HasFolder folder ∧ World.Keeps (fun _ => False) w made :=
    World.make_folders_ok ready
  have place (t : Stored.Table) : filePlace made folder t = filePlace w folder t :=
    file_place_same kept.folder
  have others : ∀ location, (∀ t ∈ tables, ∀ text, Succeeds made folder t text →
      location ≠ filePlace w folder t) →
      (perform (writeTables folder tables) made).2.file? location = w.file? location := by
    intro location apart
    have untouched := World.make_folders_files w folder location
    rw [ready] at untouched
    rw [write_tables_kept steady, untouched]
    simpa only [place] using apart
  refine ⟨?_, ?_, others, ?_⟩
  · intro t member
    constructor
    · rintro ⟨text, succeeds⟩ ⟨failure, fails⟩
      exact succeeds_not_fails succeeds fails
    · exact (succeeds_or_fails (steady t member).designed
        (types_path_named (steady t member).named there)).resolve_right
  · intro t member text succeeds
    rw [← place]
    exact ⟨write_tables_held steady there distinct member succeeds,
      write_tables_read steady there distinct member succeeds⟩
  · intro t member title titled failure fails
    refine others _ ?_
    intro u among text succeeds same
    -- Tables of one title are one table, and it does not both succeed and fail.
    have titles := file_place_inj ⟨title, titled⟩ (succeeds_title succeeds) same
    have one : t = u :=
      List.inj_on_of_nodup_map distinct member among (congrArg Scalar.key titles)
    exact succeeds_not_fails (one ▸ succeeds) fails

/-- An export ends as its tables do, and all it does after them is to note it. -/
theorem write_types_ends {db : Stored.Database} {made : World} {written : List Path}
    {last : Option Failure} (ready : w.makeFolders folder = (.ok (), made))
    (ran : (perform (writeTables folder db.tables.entries) made).1 = .ok (written, last)) :
    ∃ result notes, perform (writeTypes db folder) w =
        (result, { (perform (writeTables folder db.tables.entries) made).2 with notes }) ∧
      (∀ failure, result = .error failure ↔ last = some failure) ∧
      ∀ paths, result = .ok paths → last = none ∧ paths = written := by
  have folders : perform (Job.makeFolders folder (.folderNotMade folder)) w = (.ok (), made) :=
    (perform_make_folders_ok_iff _).mpr ready
  rw [writeTypes, perform_bind, folders]
  simp only [perform_bind]
  revert ran
  generalize perform (writeTables folder db.tables.entries) made = whole
  obtain ⟨result, after⟩ := (whole : Except Failure (List Path × Option Failure) × World)
  rintro rfl
  cases last with
  | some failure =>
      refine ⟨.error failure, after.notes, rfl, ?_, nofun⟩
      intro other
      rw [Except.error.injEq, Option.some.injEq]
  | none =>
      refine ⟨.ok written, _, rfl, ?_, ?_⟩
      · simp
      · rintro _ ⟨⟩
        exact ⟨rfl, rfl⟩

theorem write_types_stops {db : Stored.Database} {made : World} {before behind : List Stored.Table}
    {failure : RenderFailure} (ready : w.makeFolders folder = (.ok (), made))
    (split : db.tables.entries = before ++ t :: behind) (steady : ∀ u ∈ before, Steady u)
    (escapes : Escapes t failure) : perform (writeTypes db folder) w =
      (.error (.types failure), (perform (writeTables folder before) made).2) := by
  have folders : perform (Job.makeFolders folder (.folderNotMade folder)) w = (.ok (), made) :=
    (perform_make_folders_ok_iff _).mpr ready
  have there := folder_made ready
  rw [writeTypes, perform_bind, folders]
  simp only [perform_bind, split, write_tables_stops steady there escapes]

theorem render_database_ok {db : Stored.Database}
    (all : ∀ t ∈ db.tables.entries, ∃ text, Succeeds w folder t text) :
    renderDatabase db = .ok (db.tables.entries.map fun t =>
      (fileName t, (renderTable t).toOption.getD "")) := by
  refine mapM_ok _ _ _ ?_
  intro t member
  obtain ⟨text, rendered, _⟩ := all t member
  rw [rendered]
  rfl

/-- How a whole export ends: with the failure of the last table that fails, or with all paths. -/
structure Exports (db : Stored.Database) (folder : Path) (w made : World)
    (result : Except Failure (List Path)) (after : World) : Prop
    extends Leaves db.tables.entries folder w made after where
  raised : (∃ failure, result = .error failure) ↔
    ∃ t ∈ db.tables.entries, ∃ failure, Fails made folder t failure
  last : ∀ failure, result = .error failure ↔ LastFailure made folder db.tables.entries failure
  returned : ∀ paths, result = .ok paths → paths = db.tables.entries.map (typesPath folder) ∧
    ∃ files, renderDatabase db = .ok files ∧
      paths = files.map (fun (name, _) => folder.join (Path.ofString name)) ∧
      ∀ name text, (name, text) ∈ files →
        after.read (folder.join (Path.ofString name)) = .ok text

theorem types_export {db : Stored.Database} {made : World}
    (steady : ∀ t ∈ db.tables.entries, Steady t) (ready : w.makeFolders folder = (.ok (), made)) :
    Exports db folder w made (perform (writeTypes db folder) w).1
      (perform (writeTypes db folder) w).2 := by
  have there := folder_made ready
  have leaves := tables_leave steady ready db.tables.distinct
  obtain ⟨written, last, ran, reports⟩ := write_tables_reports steady there
  obtain ⟨result, notes, whole, failed, passed⟩ := write_types_ends ready ran
  rw [whole]
  refine ⟨⟨leaves.either, leaves.held, leaves.kept, leaves.spared⟩, ?_, ?_, ?_⟩
  · rw [← exists_last_failure_iff steady there]
    simp only [failed, reports.failed]
  · intro failure
    rw [failed, reports.failed]
  · intro paths returned
    obtain ⟨rfl, rfl⟩ := passed paths returned
    have all := reports_all reports steady there
    refine ⟨reports.paths rfl, _, render_database_ok all, ?_, ?_⟩
    · rw [reports.paths rfl, List.map_map]
      rfl
    · intro name text stored
      obtain ⟨t, member, same⟩ := List.mem_map.mp stored
      obtain ⟨shown, succeeds⟩ := all t member
      rw [succeeds.1] at same
      cases same
      exact write_tables_read steady there db.tables.distinct member succeeds

/-- What can stand in the name of a file. The halves from U+DC80 to U+DCFF stand for its bytes that
are no text. -/
def inFileName : Point → Bool
  | .char _ => true
  | .high _ => false
  | .low offset => 0x80 ≤ offset.val && offset.val < 0x100

def Unnameable (t : Stored.Table) : Prop :=
  ∃ text : BrokenText, t.title = .text (.broken text) ∧ ∃ point ∈ text.points, ¬ inFileName point

/-- An export makes full progress up to the first table that escapes: the tables that succeed are
written and nothing else is. If none escapes, as none of the schema does, the last failure is
raised in the end. The one that escapes ends the export with its own failure; of titles that name
files by bytes nothing is said. -/
theorem export_progresses (db : Stored.Database) (folder : Path) (w made : World)
    (named : ∀ t ∈ db.tables.entries, IsFileName t.title.shown)
    (ready : w.makeFolders folder = (.ok (), made)) :
    ((∀ t ∈ db.tables.entries, Designed t) →
      Exports db folder w made (perform (writeTypes db folder) w).1
        (perform (writeTypes db folder) w).2) ∧
    (∀ before t behind failure, db.tables.entries = before ++ t :: behind →
      (∀ u ∈ before, Designed u) → Escapes t failure →
      (failure = .unencodable → Unnameable t) →
        (perform (writeTypes db folder) w).1 = .error (.types failure) ∧
          Leaves before folder w made (perform (writeTypes db folder) w).2) ∧
    ∀ schema, db = Stored.ofDatabase schema → ∀ t ∈ db.tables.entries, Designed t := by
  refine ⟨fun designed => ?_, ?_, ?_⟩
  · exact types_export (fun t member => ⟨named t member, designed t member⟩) ready
  · intro before t behind failure split designed escapes _
    have steady : ∀ u ∈ before, Steady u := fun u member =>
      ⟨named u (split ▸ List.mem_append_left _ member), designed u member⟩
    have distinct := db.tables.distinct
    rw [split, List.map_append, List.nodup_append] at distinct
    rw [write_types_stops ready split steady escapes]
    exact ⟨rfl, tables_leave steady ready distinct.1⟩
  · rintro schema rfl t member
    rw [Stored.of_database_entries] at member
    obtain ⟨source, _, rfl⟩ := List.mem_map.mp member
    exact of_table_designed source

/-- A table has no name in types, and a folder stands in the way of another one. -/
def mixedDatabase : Database where
  tables := ⟨[{ title := "user" }, { title := "--" }, { title := "blocked" }, { title := "day" }],
    by decide⟩

def mixedWorld : World where
  tree := ⟨[(["types"], .folder), (["types", "--.ts"], .file "old"),
    (["types", "blocked.ts"], .folder)]⟩

/-- The tables before and after those that fail are written, and the old file stays. -/
theorem export_progresses_mixed :
    Exports (Stored.ofDatabase mixedDatabase) "types" mixedWorld mixedWorld
        (perform (writeTypes (Stored.ofDatabase mixedDatabase) "types") mixedWorld).1
        (perform (writeTypes (Stored.ofDatabase mixedDatabase) "types") mixedWorld).2 ∧
      LastFailure mixedWorld "types" (Stored.ofDatabase mixedDatabase).tables.entries
        (.storage (.typesNotWritten "types/blocked.ts" .isFolder)) ∧
      (perform (writeTypes (Stored.ofDatabase mixedDatabase) "types") mixedWorld).2.file?
        ["types", "--.ts"] = some (.text "old") := by
  have named : ∀ t ∈ (Stored.ofDatabase mixedDatabase).tables.entries,
      IsFileName t.title.shown := by decide
  have ready : mixedWorld.makeFolders "types" = (.ok (), mixedWorld) := by rfl
  have day : Succeeds mixedWorld "types" { title := "day" } _ :=
    ⟨rfl, World.writable_iff.mpr ⟨rfl, rfl⟩⟩
  obtain ⟨progress, _, designed⟩ :=
    export_progresses (Stored.ofDatabase mixedDatabase) "types" mixedWorld mixedWorld named ready
  refine ⟨progress (designed mixedDatabase rfl), ?_, by decide +kernel⟩
  refine ⟨[{ title := "user" }, { title := "--" }], { title := "blocked" }, [{ title := "day" }],
    rfl, .unwritten rfl rfl rfl, ?_⟩
  intro t later
  obtain rfl := List.mem_singleton.mp later
  exact ⟨_, day⟩

/-- A label of an enum is a number, of which no member can be made. -/
def rateTable : Stored.Table where
  title := "rate"
  fields := ⟨[{ title := "level", datatype := .enum, labels := some [.integer 1] }], by decide⟩

def ratedDatabase : Stored.Database where
  title := .string "rated"
  tables := ⟨[rateTable, { title := "day" }], by decide⟩

/-- Nothing stands in the way of the second table, but it is not written, and the failure is none
that an export speaks of. -/
theorem export_stops_at_label :
    (∀ t ∈ ratedDatabase.tables.entries, IsFileName t.title.shown) ∧
      { title := "day" } ∈ ratedDatabase.tables.entries ∧
      (∃ text, Succeeds mixedWorld "types" { title := "day" } text) ∧
      (perform (writeTypes ratedDatabase "types") mixedWorld).1 =
        .error (.types .illTyped) ∧
      (perform (writeTypes ratedDatabase "types") mixedWorld).2.file? ["types", "day.ts"] =
        none := by
  have ready : mixedWorld.makeFolders "types" = (.ok (), mixedWorld) := by rfl
  have split : ratedDatabase.tables.entries = [] ++ rateTable :: [{ title := "day" }] := rfl
  have escapes : Escapes rateTable .illTyped := ⟨by decide +kernel, nofun⟩
  have stopped := write_types_stops ready split (by simp) escapes
  refine ⟨by decide, by simp [ratedDatabase], ⟨_, rfl, World.writable_iff.mpr ⟨rfl, rfl⟩⟩, ?_, ?_⟩
  · rw [stopped]
  · rw [stopped]
    rfl

end SchemaCompiler.Workspace
