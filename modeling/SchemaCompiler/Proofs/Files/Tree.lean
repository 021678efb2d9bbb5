import SchemaCompiler.Files.Tree

/-!
What work on a tree keeps. Folders stay, and a file changes only where it is written, so a path
leads on to the place where it led before. That place is told by the path alone.
-/

namespace SchemaCompiler.Files

/-! Places -/

/-- One step of a path from a folder. -/
def Location.step (here : Location) (name : String) : Location :=
  if name == ".." then here.dropLast else here ++ [name]

/-- Where a path leads, if it leads anywhere. -/
def Path.destination (folder : Location) (p : Path) : Location :=
  p.parts.foldl Location.step (if p.anchor = .relative then folder else [])

namespace Tree

variable {t after last : Tree} {folder location : Location} {p : Path} {content : Content}

theorem walk_ok {here : Location} {names : List String}
    (went : t.walk here names = .ok location) : location = names.foldl Location.step here := by
  induction names generalizing here with
  | nil =>
      cases went
      rfl
  | cons name rest ih =>
      rw [walk] at went
      split at went
      · cases went
      · cases went
      · split at went
        · next up =>
          rw [List.foldl_cons, Location.step, if_pos up]
          exact ih went
        · next down =>
          split at went
          · cases went
          · rw [List.foldl_cons, Location.step, if_neg down]
            exact ih went

theorem locate_ok (found : t.locate folder p = .ok location) :
    location = p.destination folder := by
  rw [locate] at found
  split at found
  · cases found
  · exact walk_ok found

/-! Trees one after the other -/

/-- Folders stay, and so do the files outside of the given places. -/
structure Keeps (changed : Location → Prop) (t after : Tree) : Prop where
  folders : ∀ location, t.node? location = some .folder → after.node? location = some .folder
  files : ∀ location content, ¬ changed location → t.node? location = some (.file content) →
    after.node? location = some (.file content)

variable {changed more : Location → Prop}

theorem keeps_refl : Keeps changed t t := ⟨fun _ same => same, fun _ _ _ same => same⟩

theorem keeps_trans (first : Keeps changed t after) (second : Keeps changed after last) :
    Keeps changed t last where
  folders location there := second.folders location (first.folders location there)
  files location content apart there :=
    second.files location content apart (first.files location content apart there)

theorem keeps_widen (kept : Keeps changed t after) (wider : ∀ location, changed location →
    more location) : Keeps more t after where
  folders := kept.folders
  files location content apart there :=
    kept.files location content (fun within => apart (wider location within)) there

theorem walk_kept (kept : Keeps changed t after) {here : Location} {names : List String}
    (went : t.walk here names = .ok location) : after.walk here names = .ok location := by
  induction names generalizing here with
  | nil => exact went
  | cons name rest ih =>
      rw [walk] at went ⊢
      split at went
      · cases went
      · cases went
      · next there =>
        rw [kept.folders here there]
        simp only
        split at went
        · next up =>
          rw [if_pos up]
          exact ih went
        · next down =>
          rw [if_neg down]
          split at went
          · cases went
          · next short =>
            rw [if_neg short]
            exact ih went

theorem locate_kept (kept : Keeps changed t after) (found : t.locate folder p = .ok location) :
    after.locate folder p = .ok location := by
  rw [locate] at found ⊢
  split at found
  · cases found
  · next short =>
    rw [if_neg short]
    exact walk_kept kept found

/-! Files -/

theorem read_ok_iff : t.read folder p = .ok content ↔
    t.locate folder p = .ok (p.destination folder) ∧
      t.node? (p.destination folder) = some (.file content) := by
  rw [read, find]
  constructor
  · intro found
    cases located : t.locate folder p with
    | error refusal =>
        rw [located] at found
        cases found
    | ok location =>
        rw [located] at found
        obtain rfl := locate_ok located
        refine ⟨rfl, ?_⟩
        cases there : t.node? (p.destination folder) with
        | none => simp [there, bind, Except.bind] at found
        | some node =>
            cases node with
            | folder => simp [there, bind, Except.bind] at found
            | file held => simpa [there, bind, Except.bind] using found
  · rintro ⟨located, there⟩
    simp [located, there, bind, Except.bind]

theorem read_kept (kept : Keeps changed t after) (apart : ¬ changed (p.destination folder))
    (found : t.read folder p = .ok content) : after.read folder p = .ok content := by
  rw [read_ok_iff] at found ⊢
  exact ⟨locate_kept kept found.1, kept.files _ _ apart found.2⟩

theorem write_ok_iff {text : String} : t.write folder p text = .ok after ↔
    t.locate folder p = .ok (p.destination folder) ∧
      t.node? (p.destination folder) ≠ some .folder ∧
      after = t.set (p.destination folder) (.file text) := by
  rw [write]
  constructor
  · intro wrote
    cases located : t.locate folder p with
    | error refusal =>
        rw [located] at wrote
        cases wrote
    | ok location =>
        rw [located] at wrote
        obtain rfl := locate_ok located
        refine ⟨rfl, ?_⟩
        simp only [bind, Except.bind] at wrote
        split at wrote
        · cases wrote
        · next free =>
          cases wrote
          exact ⟨free, rfl⟩
  · rintro ⟨located, free, rfl⟩
    simp only [located, bind, Except.bind]

theorem keeps_set (free : t.node? location ≠ some .folder) (text : String) :
    Keeps (· = location) t (t.set location (.file text)) where
  folders other there := by
    have apart : other ≠ location := by
      rintro rfl
      exact free there
    rw [node?_set_of_ne t apart, there]
  files other content apart there := by
    rw [node?_set_of_ne t apart, there]

/-- A file that was written is read, and all that lies elsewhere is kept. -/
theorem write_ok {text : String} (wrote : t.write folder p text = .ok after) :
    after.read folder p = .ok (.text text) ∧ Keeps (· = p.destination folder) t after := by
  obtain ⟨located, free, rfl⟩ := write_ok_iff.mp wrote
  have kept := keeps_set free text
  have below : p.destination folder ≠ [] := by
    intro root
    rw [root] at free
    exact free rfl
  exact ⟨read_ok_iff.mpr ⟨locate_kept kept located, node?_set_self t below _⟩, kept⟩

/-- What a file holds already is written without a change. -/
theorem write_again {text : String} (there : t.read folder p = .ok (.text text)) :
    t.write folder p text = .ok t := by
  obtain ⟨located, held⟩ := read_ok_iff.mp there
  refine write_ok_iff.mpr ⟨located, by simp [held], ?_⟩
  cases place : p.destination folder with
  | nil =>
      rw [place] at held
      cases held
  | cons name names =>
      rw [place] at held
      have same := Association.set_present held
      rw [set, same]

/-! Folders -/

theorem make_folder_keeps (made : t.makeFolder folder p = .ok after) : Keeps changed t after := by
  rw [makeFolder] at made
  cases located : t.locate folder p with
  | error refusal =>
      rw [located] at made
      cases made
  | ok location =>
      rw [located] at made
      simp only [bind, Except.bind] at made
      split at made
      · cases made
      · next vacant =>
        cases made
        have other {place : Location} {node : Node} (there : t.node? place = some node) :
            (t.set location .folder).node? place = some node := by
          have apart : place ≠ location := by
            rintro rfl
            rw [vacant] at there
            cases there
          rw [node?_set_of_ne t apart, there]
        exact ⟨fun _ there => other there, fun _ _ _ there => other there⟩

theorem is_folder_iff : t.isFolder folder p = true ↔
    t.locate folder p = .ok (p.destination folder) ∧
      t.node? (p.destination folder) = some .folder := by
  rw [isFolder, find]
  constructor
  · intro found
    cases located : t.locate folder p with
    | error refusal => simp [located, bind, Except.bind] at found
    | ok location =>
        obtain rfl := locate_ok located
        refine ⟨rfl, ?_⟩
        cases there : t.node? (p.destination folder) with
        | none => simp [located, there, bind, Except.bind] at found
        | some node =>
            cases node with
            | folder => rfl
            | file content => simp [located, there, bind, Except.bind] at found
  · rintro ⟨located, there⟩
    simp [located, there, bind, Except.bind]

theorem is_folder_kept (kept : Keeps changed t after) (there : t.isFolder folder p = true) :
    after.isFolder folder p = true := by
  rw [is_folder_iff] at there ⊢
  exact ⟨locate_kept kept there.1, kept.folders _ there.2⟩

theorem make_folder_ok (made : t.makeFolder folder p = .ok after) :
    after.isFolder folder p = true := by
  have kept : Keeps (fun _ => False) t after := make_folder_keeps made
  rw [makeFolder] at made
  cases located : t.locate folder p with
  | error refusal =>
      rw [located] at made
      cases made
  | ok location =>
      rw [located] at made
      obtain rfl := locate_ok located
      refine is_folder_iff.mpr ⟨locate_kept kept located, ?_⟩
      simp only [bind, Except.bind] at made
      split at made
      · cases made
      · next vacant =>
        cases made
        have below : p.destination folder ≠ [] := by
          intro root
          rw [root] at vacant
          cases vacant
        exact node?_set_self t below .folder

theorem ensure_folder_ok (made : t.ensureFolder folder p = .ok after) :
    after.isFolder folder p = true ∧ Keeps changed t after := by
  rw [ensureFolder] at made
  split at made
  · next fresh =>
    cases made
    exact ⟨make_folder_ok fresh, make_folder_keeps fresh⟩
  · split at made
    · next there =>
      cases made
      exact ⟨there, keeps_refl⟩
    · cases made

theorem make_folders_from_keeps (t : Tree) (folder : Location) (anchor : Anchor)
    (names : List String) : Keeps changed t (t.makeFoldersFrom folder anchor names).1 := by
  induction names with
  | nil =>
      rw [makeFoldersFrom]
      split
      · next made => exact (ensure_folder_ok made).2
      · exact keeps_refl
  | cons name above ih =>
      rw [makeFoldersFrom]
      split
      · next made => exact (ensure_folder_ok made).2
      · split
        · next stopped =>
          rw [stopped] at ih
          exact ih
        · next reached =>
          rw [reached] at ih
          split
          · next made => exact keeps_trans ih (ensure_folder_ok made).2
          · exact ih
      · exact keeps_refl

theorem make_folders_from_ok {anchor : Anchor} {names : List String}
    (made : t.makeFoldersFrom folder anchor names = (after, .ok ())) :
    after.isFolder folder ⟨anchor, names.reverse⟩ = true := by
  have settled {before : Tree} {p : Path} (ensured : before.ensureFolder folder p = .ok after) :
      after.isFolder folder p = true := by
    have both : _ ∧ Keeps (fun _ => False) before after := ensure_folder_ok ensured
    exact both.1
  cases names with
  | nil =>
      rw [makeFoldersFrom] at made
      split at made
      · next ensured =>
        cases made
        exact settled ensured
      · cases made
  | cons name above =>
      rw [makeFoldersFrom] at made
      simp only at made
      split at made
      · next ensured =>
        cases made
        exact settled ensured
      · split at made
        · cases made
        · split at made
          · next ensured =>
            cases made
            exact settled ensured
          · cases made
      · cases made

/-- A folder that was made is there, and nothing else has changed. -/
theorem make_folders_ok (made : t.makeFolders folder p = (after, .ok ())) :
    after.isFolder folder p = true ∧ Keeps changed t after := by
  rw [makeFolders] at made
  have kept : Keeps changed t _ := make_folders_from_keeps t folder p.anchor p.parts.reverse
  rw [made] at kept
  have there := make_folders_from_ok made
  rw [List.reverse_reverse] at there
  exact ⟨there, kept⟩

theorem ensure_folder_again (there : t.isFolder folder p = true) :
    t.ensureFolder folder p = .ok t := by
  obtain ⟨located, held⟩ := is_folder_iff.mp there
  have taken : t.makeFolder folder p = .error .alreadyThere := by
    simp [makeFolder, located, held, bind, Except.bind]
  simp [ensureFolder, taken, there]

/-- A folder that is there is made without a change. -/
theorem make_folders_again (there : t.isFolder folder p = true) :
    t.makeFolders folder p = (t, .ok ()) := by
  rw [makeFolders]
  cases names : p.parts.reverse with
  | nil =>
      have whole : p = ⟨p.anchor, []⟩ := by
        rw [List.reverse_eq_nil_iff] at names
        rw [← names]
      rw [whole] at there
      rw [makeFoldersFrom, ensure_folder_again there]
  | cons name above =>
      have whole : p = ⟨p.anchor, (name :: above).reverse⟩ := by
        rw [← names, List.reverse_reverse]
      rw [whole] at there
      rw [makeFoldersFrom]
      simp only [ensure_folder_again there]

end Tree

end SchemaCompiler.Files
