import SchemaCompiler.Proofs.Files.Tree
import SchemaCompiler.Proofs.Outcome
import SchemaCompiler.Workspace.Setup

/-!
Files in a world, and what jobs make of them. A job that is done again where everything is in
place already comes to the same result and leaves nothing but notes.
-/

namespace SchemaCompiler.Workspace

open Files Outcome

/-! Files of a world -/

namespace World

variable {w after last : World} {p : Path} {text : String} {changed more : Location → Prop}

theorem checked_ok_iff {α : Type} {result : Except Refusal α} {a : α} :
    checked p result = .ok a ↔ p.hasNul = false ∧ result = .ok a := by
  rw [checked]
  cases p.hasNul with
  | true => simp
  | false => simp [map_error_ok_iff]

/-- A file that is read holds text. -/
theorem read_ok_iff :
    w.read p = .ok text ↔ p.hasNul = false ∧ w.tree.read w.folder p = .ok (.text text) := by
  rw [read, bind_ok_iff]
  simp only [checked_ok_iff]
  constructor
  · rintro ⟨content, found, decoded⟩
    cases content with
    | text held =>
        cases decoded
        exact found
    | raw bytes => cases decoded
  · exact fun found => ⟨.text text, found, rfl⟩

/-- There is a file with the content. -/
def Holds (w : World) (p : Path) (content : Content) : Prop :=
  p.hasNul = false ∧ w.tree.read w.folder p = .ok content

theorem read_holds {content : Content} (holds : w.Holds p content) : w.read p = content.decode := by
  have found : checked p (w.tree.read w.folder p) = .ok content := checked_ok_iff.mpr holds
  rw [read, found]
  rfl

theorem write_ok_iff : w.write p text = (.ok (), after) ↔
    p.hasNul = false ∧
      ∃ tree, w.tree.write w.folder p text = .ok tree ∧ after = { w with tree } := by
  have accepted (tree : Tree) : checked p (w.tree.write w.folder p text) = .ok tree ↔
      p.hasNul = false ∧ w.tree.write w.folder p text = .ok tree := checked_ok_iff
  rw [write]
  constructor
  · intro wrote
    cases outcome : checked p (w.tree.write w.folder p text) with
    | error fault =>
        rw [outcome] at wrote
        cases wrote
    | ok tree =>
        rw [outcome] at wrote
        obtain ⟨noNul, stored⟩ := (accepted tree).mp outcome
        exact ⟨noNul, tree, stored, (congrArg Prod.snd wrote).symm⟩
  · rintro ⟨noNul, tree, stored, rfl⟩
    rw [(accepted tree).mpr ⟨noNul, stored⟩]

theorem make_folders_ok_iff : w.makeFolders p = (.ok (), after) ↔
    p.hasNul = false ∧ ∃ tree, w.tree.makeFolders w.folder p = (tree, .ok ()) ∧
      after = { w with tree } := by
  rw [makeFolders]
  cases p.hasNul with
  | true => simp
  | false =>
      obtain ⟨tree, result⟩ := w.tree.makeFolders w.folder p
      cases result with
      | error refusal =>
          constructor
          · exact fun made => by cases congrArg Prod.fst made
          · rintro ⟨_, _, made, _⟩
            cases congrArg Prod.snd made
      | ok done =>
          constructor
          · exact fun made => ⟨rfl, tree, rfl, (congrArg Prod.snd made).symm⟩
          · rintro ⟨_, _, made, rfl⟩
            cases made
            rfl

/-- A file can be written there: the path leads somewhere, and not to a folder. -/
def Writable (w : World) (p : Path) : Prop :=
  p.hasNul = false ∧ ∃ location, w.tree.locate w.folder p = .ok location ∧
    w.tree.node? location ≠ some .folder

/-- There is a folder. -/
def HasFolder (w : World) (p : Path) : Prop :=
  p.hasNul = false ∧ w.tree.isFolder w.folder p = true

/-- The trees of two worlds, one after the other, differ at most in files at the given places, and
paths start in the same folder. -/
structure Keeps (changed : Location → Prop) (w after : World) : Prop where
  folder : after.folder = w.folder
  tree : Tree.Keeps changed w.tree after.tree

theorem keeps_refl : Keeps changed w w := ⟨rfl, Tree.keeps_refl⟩

theorem keeps_trans (first : Keeps changed w after) (second : Keeps changed after last) :
    Keeps changed w last :=
  ⟨second.folder.trans first.folder, Tree.keeps_trans first.tree second.tree⟩

theorem keeps_widen (kept : Keeps changed w after)
    (wider : ∀ location, changed location → more location) : Keeps more w after :=
  ⟨kept.folder, Tree.keeps_widen kept.tree wider⟩

theorem keeps_notes (w : World) (notes : List Note) : Keeps changed w { w with notes } :=
  ⟨rfl, Tree.keeps_refl⟩

theorem read_kept (kept : Keeps changed w after) (apart : ¬ changed (p.destination w.folder))
    (found : w.read p = .ok text) : after.read p = .ok text := by
  rw [read_ok_iff] at found ⊢
  rw [kept.folder]
  exact ⟨found.1, Tree.read_kept kept.tree apart found.2⟩

theorem has_folder_kept (kept : Keeps changed w after) (there : w.HasFolder p) :
    after.HasFolder p := by
  rw [HasFolder, kept.folder]
  exact ⟨there.1, Tree.is_folder_kept kept.tree there.2⟩

/-- A file that was written is read, and all that lies elsewhere is kept. -/
theorem write_ok (wrote : w.write p text = (.ok (), after)) :
    after.read p = .ok text ∧ Keeps (· = p.destination w.folder) w after := by
  obtain ⟨noNul, tree, stored, rfl⟩ := write_ok_iff.mp wrote
  obtain ⟨held, kept⟩ := Tree.write_ok stored
  exact ⟨read_ok_iff.mpr ⟨noNul, held⟩, rfl, kept⟩

theorem write_read (writable : w.Writable p) (text : String) :
    ∃ after, w.write p text = (.ok (), after) ∧ after.read p = .ok text := by
  obtain ⟨noNul, location, located, free⟩ := writable
  obtain rfl := Tree.locate_ok located
  have wrote : w.tree.write w.folder p text = .ok _ :=
    Tree.write_ok_iff.mpr ⟨located, free, rfl⟩
  have written := write_ok_iff.mpr ⟨noNul, _, wrote, rfl⟩
  exact ⟨_, written, (write_ok written).1⟩

theorem make_folders_ok (made : w.makeFolders p = (.ok (), after)) :
    after.HasFolder p ∧ Keeps changed w after := by
  obtain ⟨noNul, tree, built, rfl⟩ := make_folders_ok_iff.mp made
  obtain ⟨there, kept⟩ := Tree.make_folders_ok built
  exact ⟨⟨noNul, there⟩, rfl, kept⟩

theorem write_again (there : w.read p = .ok text) : w.write p text = (.ok (), w) := by
  obtain ⟨noNul, held⟩ := read_ok_iff.mp there
  exact write_ok_iff.mpr ⟨noNul, _, Tree.write_again held, rfl⟩

theorem make_folders_again (there : w.HasFolder p) : w.makeFolders p = (.ok (), w) :=
  make_folders_ok_iff.mpr ⟨there.1, _, Tree.make_folders_again there.2, rfl⟩

theorem is_file_of_read (there : w.read p = .ok text) : w.isFile p = .ok true := by
  obtain ⟨noNul, held⟩ := read_ok_iff.mp there
  obtain ⟨located, node⟩ := Tree.read_ok_iff.mp held
  have found : w.tree.find w.folder p = .ok (.file (.text text)) := by
    simp [Tree.find, located, node, bind, Except.bind]
  simp only [isFile, noNul, Tree.isFile, found, Bool.false_eq_true, if_false]
  rfl

end World

variable {α β : Type} {w after : World}

/-! Jobs in a session -/

/-- What a job makes of a world, and the world that it leaves. -/
def perform (job : Job Session α) (w : World) : Except Failure α × World := job.run.run w

theorem perform_bind (job : Job Session α) (next : α → Job Session β) (w : World) :
    perform (job >>= next) w =
      match perform job w with
      | (.ok a, later) => perform (next a) later
      | (.error failure, later) => (.error failure, later) := by
  simp only [perform, ExceptT.run_bind, StateT.run_bind]
  generalize StateT.run (ExceptT.run job) w = result
  obtain ⟨outcome, later⟩ := (result : Except Failure α × World)
  cases outcome with
  | ok a => rfl
  | error failure => rfl

theorem perform_pure (a : α) (w : World) : perform (pure a) w = (.ok a, w) := rfl

theorem perform_outcome (job : Job Session α) (w : World) :
    perform job.outcome w = (.ok (perform job w).1, (perform job w).2) := rfl

theorem perform_note (n : Note) (w : World) :
    perform (Job.note n) w = (.ok (), { w with notes := w.notes ++ [n] }) := rfl

/-- A note changes no file. -/
theorem read_noted (w : World) (notes : List Note) (path : Path) :
    ({ w with notes } : World).read path = w.read path := rfl

theorem perform_notes (notes : List Note) (w : World) :
    perform (notes.forM Job.note) w = (.ok (), { w with notes := w.notes ++ notes }) := by
  induction notes generalizing w with
  | nil => simp [perform_pure]
  | cons n rest ih =>
      change perform (Job.note n >>= fun _ => rest.forM Job.note) w = _
      simp only [perform_bind, perform_note, ih, List.append_assoc, List.singleton_append]

/-! Jobs that end well -/

theorem perform_bind_ok_iff {job : Job Session α} {next : α → Job Session β} {b : β} :
    perform (job >>= next) w = (.ok b, after) ↔
      ∃ a later, perform job w = (.ok a, later) ∧ perform (next a) later = (.ok b, after) := by
  rw [perform_bind]
  obtain ⟨outcome, later⟩ := perform job w
  cases outcome with
  | ok a =>
      constructor
      · exact fun went => ⟨a, later, rfl, went⟩
      · rintro ⟨_, _, same, went⟩
        cases same
        exact went
  | error failure => simp

theorem noted_world {n : Note} {done : Unit}
    (told : perform (Job.note n) w = (.ok done, after)) :
    after = { w with notes := w.notes ++ [n] } := by
  rw [perform_note] at told
  exact (congrArg Prod.snd told).symm

theorem perform_or_fail {ε : Type} (wrap : ε → Failure) (result : Except ε α) :
    perform (Job.orFail wrap result) w = (result.mapError wrap, w) := by
  cases result <;> rfl

theorem perform_or_fail_ok_iff {ε : Type} (wrap : ε → Failure) (result : Except ε α) {a : α} :
    perform (Job.orFail wrap result) w = (.ok a, after) ↔ result = .ok a ∧ after = w := by
  rw [perform_or_fail, Prod.mk.injEq, map_error_ok_iff, eq_comm (a := after)]

theorem perform_explain_ok_iff (cause : Refusal → StorageError) (result : Except Fault α) {a : α} :
    perform (Job.explain cause result) w = (.ok a, after) ↔ result = .ok a ∧ after = w := by
  cases result with
  | ok b =>
      have done : perform (Job.explain cause (.ok b)) w = (.ok b, w) := rfl
      simp [done, eq_comm]
  | error fault =>
      have failed : ∃ failure, perform (Job.explain cause (.error fault : Except Fault α)) w =
          (.error failure, w) := by
        cases fault with
        | refused refusal => exact ⟨_, rfl⟩
        | nulInPath | undecodable => exact ⟨_, rfl⟩
      obtain ⟨failure, failed⟩ := failed
      simp [failed]

theorem perform_read_ok_iff {path : Path} {text : String} (cause : Refusal → StorageError) :
    perform (Job.read path cause) w = (.ok text, after) ↔
      w.read path = .ok text ∧ after = w := by
  have asked : perform (ExceptT.lift (MonadFiles.read path)) w = (.ok (w.read path), w) := rfl
  rw [Job.read, perform_bind, asked]
  exact perform_explain_ok_iff cause _

theorem perform_read {path : Path} {text : String} (found : w.read path = .ok text)
    (cause : Refusal → StorageError) : perform (Job.read path cause) w = (.ok text, w) :=
  (perform_read_ok_iff cause).mpr ⟨found, rfl⟩

/-- The text of a file, as it is read. -/
def unified (text : String) : String := String.ofList (Text.unifyLineEnds text.toList)

theorem perform_read_text_ok_iff {path : Path} {content : String}
    (cause : Refusal → StorageError) :
    perform (Job.readText path cause) w = (.ok content, after) ↔
      ∃ text, w.read path = .ok text ∧ content = unified text ∧ after = w := by
  rw [Job.readText, perform_bind_ok_iff]
  simp only [perform_read_ok_iff]
  constructor
  · rintro ⟨text, later, ⟨found, rfl⟩, went⟩
    cases went
    exact ⟨text, found, rfl, rfl⟩
  · rintro ⟨text, found, rfl, rfl⟩
    exact ⟨text, _, ⟨found, rfl⟩, rfl⟩

theorem perform_read_text {path : Path} {text : String} (found : w.read path = .ok text)
    (cause : Refusal → StorageError) :
    perform (Job.readText path cause) w = (.ok (unified text), w) :=
  (perform_read_text_ok_iff cause).mpr ⟨text, found, rfl, rfl⟩

/-- Bytes that are no text end the job. -/
theorem perform_read_undecodable {path : Path} (raw : w.read path = .error .undecodable)
    (cause : Refusal → StorageError) :
    perform (Job.readText path cause) w = (.error (.files .undecodable), w) := by
  have asked : perform (ExceptT.lift (MonadFiles.read path)) w = (.ok (w.read path), w) := rfl
  rw [Job.readText, perform_bind, Job.read, perform_bind, asked, raw]
  rfl

theorem read_text_world (path : Path) (cause : Refusal → StorageError) (w : World) :
    (perform (Job.readText path cause) w).2 = w := by
  have asked : perform (ExceptT.lift (MonadFiles.read path)) w = (.ok (w.read path), w) := rfl
  rw [Job.readText, perform_bind, Job.read, perform_bind, asked]
  simp only
  cases w.read path with
  | ok text => rfl
  | error fault => cases fault <;> rfl

theorem asked_world {path : Path} {answer : Bool}
    (asked : perform (Job.isFile path) w = (.ok answer, after)) : after = w := by
  have told : perform (Job.isFile path) w = ((w.isFile path).mapError .files, w) :=
    perform_or_fail _ _
  rw [told] at asked
  exact (congrArg Prod.snd asked).symm

theorem perform_write_ok_iff {path : Path} {text : String} (cause : Refusal → StorageError)
    {done : Unit} : perform (Job.write path text cause) w = (.ok done, after) ↔
      w.write path text = (.ok (), after) := by
  have asked : perform (ExceptT.lift (MonadFiles.write path text)) w =
      (.ok (w.write path text).1, (w.write path text).2) := rfl
  rw [Job.write, perform_bind, asked]
  simp only [perform_explain_ok_iff]
  rw [Prod.ext_iff, eq_comm (a := after)]

theorem perform_make_folders_ok_iff {path : Path} (cause : Refusal → StorageError)
    {done : Unit} : perform (Job.makeFolders path cause) w = (.ok done, after) ↔
      w.makeFolders path = (.ok (), after) := by
  have asked : perform (ExceptT.lift (MonadFiles.makeFolders path)) w =
      (.ok (w.makeFolders path).1, (w.makeFolders path).2) := rfl
  rw [Job.makeFolders, perform_bind, asked]
  simp only [perform_explain_ok_iff]
  rw [Prod.ext_iff, eq_comm (a := after)]

/-! Jobs that are done again -/

/-- The job comes to a result and leads from one world to another, whatever the notes are. -/
def Leads (job : Job Session α) (w after : World) (a : α) : Prop :=
  ∀ before, ∃ notes, perform job { w with notes := before } = (.ok a, { after with notes })

/-- The job comes to a result, and leaves nothing but notes. -/
def Settles (job : Job Session α) (w : World) (a : α) : Prop := Leads job w w a

theorem leads_bind {job : Job Session α} {next : α → Job Session β} {a : α} {b : β}
    {between : World} (first : Leads job w between a) (second : Leads (next a) between after b) :
    Leads (job >>= next) w after b := by
  intro before
  obtain ⟨told, ran⟩ := first before
  obtain ⟨notes, went⟩ := second told
  exact ⟨notes, perform_bind_ok_iff.mpr ⟨a, _, ran, went⟩⟩

theorem leads_write {path : Path} {text : String} (wrote : w.write path text = (.ok (), after))
    (cause : Refusal → StorageError) : Leads (Job.write path text cause) w after () := by
  intro before
  obtain ⟨named, tree, stored, rfl⟩ := World.write_ok_iff.mp wrote
  exact ⟨before, (perform_write_ok_iff cause).mpr
    (World.write_ok_iff.mpr ⟨named, tree, stored, rfl⟩)⟩

theorem settles_pure (a : α) (w : World) : Settles (pure a) w a := fun before => ⟨before, rfl⟩

theorem settles_bind {job : Job Session α} {next : α → Job Session β} {a : α} {b : β}
    (first : Settles job w a) (second : Settles (next a) w b) : Settles (job >>= next) w b :=
  leads_bind first second

theorem settles_note (n : Note) (w : World) : Settles (Job.note n) w () :=
  fun before => ⟨before ++ [n], rfl⟩

theorem settles_or_fail {ε : Type} (wrap : ε → Failure) (a : α) (w : World) :
    Settles (Job.orFail wrap (.ok a : Except ε α)) w a := settles_pure a w

theorem settles_outcome {job : Job Session α} {a : α} (settles : Settles job w a) :
    Settles job.outcome w (.ok a) := by
  intro before
  obtain ⟨notes, ran⟩ := settles before
  refine ⟨notes, ?_⟩
  rw [perform_outcome, ran]

theorem settles_read {path : Path} {text : String} (there : w.read path = .ok text)
    (cause : Refusal → StorageError) : Settles (Job.read path cause) w text :=
  fun before => ⟨before, perform_read (w := { w with notes := before }) there cause⟩

theorem settles_write {path : Path} {text : String} (there : w.read path = .ok text)
    (cause : Refusal → StorageError) : Settles (Job.write path text cause) w () :=
  leads_write (World.write_again there) cause

theorem settles_make_folders {path : Path} (there : w.HasFolder path)
    (cause : Refusal → StorageError) : Settles (Job.makeFolders path cause) w () :=
  fun before => ⟨before, (perform_make_folders_ok_iff cause).mpr
    (World.make_folders_again (w := { w with notes := before }) there)⟩

theorem settles_is_file {path : Path} {text : String} (there : w.read path = .ok text) :
    Settles (Job.isFile path) w true := by
  intro before
  have asked : perform (ExceptT.lift (MonadFiles.isFile path)) { w with notes := before } =
      (.ok (w.isFile path), { w with notes := before }) := rfl
  refine ⟨before, ?_⟩
  rw [Job.isFile, perform_bind, asked, World.is_file_of_read there]
  rfl

end SchemaCompiler.Workspace
