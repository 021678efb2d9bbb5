import SchemaCompiler.Proofs.Files.Path

/-!
What the files of a tree hold. Making folders changes no file, and writing one changes no other.
Where files alone were written, a path leads where it led before, and is refused as it was.
-/

namespace SchemaCompiler.Files

namespace Tree

variable {t after last : Tree} {folder location : Location} {p : Path} {content : Content}
variable {changed more : Location → Prop}

/-- What the file at a location holds. -/
def file? (t : Tree) (location : Location) : Option Content :=
  match t.node? location with
  | some (.file content) => some content
  | _ => none

theorem file_some_iff :
    t.file? location = some content ↔ t.node? location = some (.file content) := by
  rw [file?]
  constructor
  · intro held
    split at held
    · next there =>
      cases held
      exact there
    · cases held
  · intro there
    rw [there]

theorem file_set_self (below : location ≠ []) (content : Content) :
    (t.set location (.file content)).file? location = some content :=
  file_some_iff.mpr (node?_set_self t below _)

theorem file_set_of_ne {other : Location} (apart : other ≠ location) (node : Node) :
    (t.set location node).file? other = t.file? other := by
  rw [file?, file?, node?_set_of_ne t apart]

/-! Folders that are made -/

theorem make_folder_files (made : t.makeFolder folder p = .ok after) (location : Location) :
    after.file? location = t.file? location := by
  rw [makeFolder] at made
  cases located : t.locate folder p with
  | error refusal =>
      rw [located] at made
      cases made
  | ok place =>
      rw [located] at made
      simp only [bind, Except.bind] at made
      split at made
      · cases made
      · next vacant =>
        cases made
        by_cases here : location = place
        · subst here
          have below : location ≠ [] := by
            rintro rfl
            cases vacant
          rw [file?, file?, node?_set_self t below, vacant]
        · exact file_set_of_ne here _

theorem ensure_folder_files (made : t.ensureFolder folder p = .ok after) (location : Location) :
    after.file? location = t.file? location := by
  rw [ensureFolder] at made
  split at made
  · next fresh =>
    cases made
    exact make_folder_files fresh location
  · split at made
    · cases made
      rfl
    · cases made

theorem make_folders_from_files (t : Tree) (folder : Location) (anchor : Anchor)
    (names : List String) (location : Location) :
    (t.makeFoldersFrom folder anchor names).1.file? location = t.file? location := by
  induction names with
  | nil =>
      rw [makeFoldersFrom]
      split
      · next made => exact ensure_folder_files made location
      · rfl
  | cons name above ih =>
      rw [makeFoldersFrom]
      split
      · next made => exact ensure_folder_files made location
      · split
        · next stopped =>
          rw [stopped] at ih
          exact ih
        · next reached =>
          rw [reached] at ih
          split
          · next made => exact (ensure_folder_files made location).trans ih
          · exact ih
      · rfl

/-- Folders are made without a change to any file, even when not all can be made. -/
theorem make_folders_files (t : Tree) (folder : Location) (p : Path) (location : Location) :
    (t.makeFolders folder p).1.file? location = t.file? location :=
  make_folders_from_files t folder p.anchor p.parts.reverse location

/-! Files that are written -/

/-- Nothing but files at the given places was written: the folders are the same, and so are the
files elsewhere. -/
structure Rewrites (changed : Location → Prop) (t after : Tree) : Prop where
  folders : ∀ location, after.node? location = some .folder ↔ t.node? location = some .folder
  files : ∀ location, ¬ changed location → after.file? location = t.file? location

theorem rewrites_refl : Rewrites changed t t := ⟨fun _ => Iff.rfl, fun _ _ => rfl⟩

theorem rewrites_trans (first : Rewrites changed t after) (second : Rewrites changed after last) :
    Rewrites changed t last where
  folders location := (second.folders location).trans (first.folders location)
  files location apart := (second.files location apart).trans (first.files location apart)

theorem rewrites_widen (rewrites : Rewrites changed t after)
    (wider : ∀ location, changed location → more location) : Rewrites more t after where
  folders := rewrites.folders
  files location apart := rewrites.files location fun within => apart (wider location within)

theorem rewrites_set (free : t.node? location ≠ some .folder) (text : String) :
    Rewrites (· = location) t (t.set location (.file text)) where
  folders other := by
    by_cases here : other = location
    · subst here
      have below : other ≠ [] := by
        rintro rfl
        exact free rfl
      simp [node?_set_self t below, free]
    · rw [node?_set_of_ne t here]
  files other apart := file_set_of_ne apart _

/-- Trees with the same folders are walked alike. -/
theorem locate_rewritten (rewrites : Rewrites changed t after) :
    after.locate folder p = .ok location ↔ t.locate folder p = .ok location := by
  have forth : Keeps (fun _ => True) t after :=
    ⟨fun place => (rewrites.folders place).mpr, fun _ _ apart => absurd trivial apart⟩
  have back : Keeps (fun _ => True) after t :=
    ⟨fun place => (rewrites.folders place).mp, fun _ _ apart => absurd trivial apart⟩
  exact ⟨locate_kept back, locate_kept forth⟩

theorem is_folder_rewritten (rewrites : Rewrites changed t after) :
    after.isFolder folder p = true ↔ t.isFolder folder p = true := by
  rw [is_folder_iff, is_folder_iff, locate_rewritten rewrites, rewrites.folders]

/-! Refusals -/

/-- Why no file can be written at a path. -/
def refusal? (t : Tree) (folder : Location) (p : Path) : Option Refusal :=
  match t.locate folder p with
  | .error refusal => some refusal
  | .ok location => if t.node? location = some .folder then some .isFolder else none

theorem write_eq (t : Tree) (folder : Location) (p : Path) (text : String) :
    t.write folder p text =
      match t.refusal? folder p with
      | some refusal => .error refusal
      | none => .ok (t.set (p.destination folder) (.file text)) := by
  rw [write, refusal?]
  cases located : t.locate folder p with
  | error refusal => rfl
  | ok location =>
      obtain rfl := locate_ok located
      simp only [bind, Except.bind]
      split
      · next taken => simp [taken]
      · next free =>
        have apart : t.node? (p.destination folder) ≠ some .folder := free
        simp [apart]

theorem refusal_none_iff : t.refusal? folder p = none ↔
    t.locate folder p = .ok (p.destination folder) ∧
      t.node? (p.destination folder) ≠ some .folder := by
  rw [refusal?]
  cases located : t.locate folder p with
  | error refusal => simp
  | ok location =>
      obtain rfl := locate_ok located
      simp

theorem refusal_none_rewritten (rewrites : Rewrites changed t after) :
    after.refusal? folder p = none ↔ t.refusal? folder p = none := by
  rw [refusal_none_iff, refusal_none_iff, locate_rewritten rewrites, ne_eq, ne_eq,
    rewrites.folders]

theorem walk_append (t : Tree) (here : Location) (names more : List String) :
    t.walk here (names ++ more) = (t.walk here names >>= fun place => t.walk place more) := by
  induction names generalizing here with
  | nil => rfl
  | cons name rest ih =>
      rw [List.cons_append, walk, walk]
      split
      · rfl
      · rfl
      · split
        · exact ih _
        · split
          · rfl
          · exact ih _

/-- Into a folder leads every name that is not too long. -/
theorem locate_child (there : t.isFolder folder p = true) {name : String} (plain : name ≠ "..") :
    t.locate folder (p.child name) =
      if maxPathSize < (p.child name).toString.utf8ByteSize ∨ maxNameSize < name.utf8ByteSize then
        .error .nameTooLong
      else .ok (p.destination folder ++ [name]) := by
  obtain ⟨located, held⟩ := is_folder_iff.mp there
  have above : t.walk (if p.anchor = .relative then folder else []) p.parts =
      .ok (p.destination folder) := by
    rw [locate] at located
    split at located
    · cases located
    · exact located
  have below : t.walk (p.destination folder) [name] =
      if maxNameSize < name.utf8ByteSize then .error .nameTooLong
      else .ok (p.destination folder ++ [name]) := by
    simp [walk, held, plain]
  have whole : t.walk (if (p.child name).anchor = .relative then folder else [])
      (p.child name).parts = t.walk (p.destination folder) [name] := by
    rw [Path.child, walk_append, above]
    rfl
  rw [locate, whole, below]
  by_cases long : maxPathSize < (p.child name).toString.utf8ByteSize
  · simp [long]
  · simp [long]

/-- What can be written in a folder does not depend on files. -/
theorem refusal_child_rewritten (rewrites : Rewrites changed t after)
    (there : t.isFolder folder p = true) {name : String} (plain : name ≠ "..") :
    after.refusal? folder (p.child name) = t.refusal? folder (p.child name) := by
  have stays := (is_folder_rewritten rewrites).mpr there
  have places : after.locate folder (p.child name) = t.locate folder (p.child name) := by
    rw [locate_child stays plain, locate_child there plain]
  rw [refusal?, refusal?, places]
  cases t.locate folder (p.child name) with
  | error refusal => rfl
  | ok location => simp only [rewrites.folders]

end Tree

end SchemaCompiler.Files
