import SchemaCompiler.Proofs.Toml.TableText
import SchemaCompiler.Proofs.Workspace.World

/-!
Settings that are saved and loaded. They come back as they were, in whatever order they are
written, unless one of them goes beyond the basic plane: the file that is written then is refused.
-/

namespace SchemaCompiler.Workspace

open Files Outcome

namespace Settings

/-! The text of the file -/

/-- The settings under their keys. -/
def texts (s : Settings) : List (String × String) :=
  [(schemaKey, s.schemaPath), (snapshotKey, s.snapshotPath), (typeKey, s.typePath)]

/-- None of the settings goes beyond the basic plane. -/
def IsBasic (s : Settings) : Prop := ∀ entry ∈ s.texts, Toml.IsBasic entry.2.toList

instance (s : Settings) : Decidable s.IsBasic :=
  List.decidableBAll (fun entry : String × String => Toml.IsBasic entry.2.toList) s.texts

def ofStrings (entries : List (String × String)) : List (String × Json) :=
  entries.map fun (key, s) => (key, .string s)

/-- The entry of a setting that is a string. -/
def asString? : String × Json → Option (String × String)
  | (key, .string (.plain s)) => some (key, s)
  | _ => none

/-- Entries in any order are strings under the same keys. -/
theorem strings_of_perm {s : Settings} {entries : List (String × Json)}
    (order : entries.Perm s.toEntries) :
    ∃ strings, strings.Perm s.texts ∧ entries = ofStrings strings := by
  refine ⟨entries.filterMap asString?, order.filterMap asString?, ?_⟩
  have each : ∀ entry ∈ entries, ∃ key, ∃ text : String, entry = (key, Json.string text) := by
    intro entry member
    have among := order.mem_iff.mp member
    simp only [toEntries, List.mem_cons, List.not_mem_nil, or_false] at among
    rcases among with rfl | rfl | rfl <;> exact ⟨_, _, rfl⟩
  clear order
  induction entries with
  | nil => rfl
  | cons entry rest ih =>
      obtain ⟨key, text, rfl⟩ := each entry (by simp)
      have others := ih (fun other member => each other (List.mem_cons_of_mem _ member))
      exact congrArg (List.cons _) others

theorem lines_text (front : String) (entries : List (String × String)) :
    ((ofStrings entries).foldl
      (fun text (key, value) => text ++ key ++ " = " ++ value.compact ++ "\n") front).toList =
    front.toList ++ entries.flatMap Toml.entryLine := by
  induction entries generalizing front with
  | nil => simp [ofStrings]
  | cons entry rest ih =>
      obtain ⟨key, text⟩ := entry
      have later := ih (front ++ key ++ " = " ++ (Json.string text).compact ++ "\n")
      have gap : " = ".toList = [' ', '=', ' '] := rfl
      have ending : "\n".toList = ['\n'] := rfl
      have written : (Json.string text).compact.toList = Json.quote .ascii text := by
        simp [Json.compact, Json.write]
      rw [ofStrings, List.map_cons, List.foldl_cons]
      refine later.trans ?_
      simp [String.toList_append, written, gap, ending, Toml.entryLine]

theorem file_text (entries : List (String × String)) :
    (fileText (ofStrings entries)).toList = Toml.tableText settingsTable entries := by
  rw [fileText, lines_text]
  rfl

theorem texts_keys (s : Settings) :
    (s.texts.map Prod.fst).Nodup ∧ ∀ entry ∈ s.texts, Toml.IsBare entry.1.toList := by
  have keys : [schemaKey, snapshotKey, typeKey].Nodup ∧
      ∀ key ∈ [schemaKey, snapshotKey, typeKey], Toml.IsBare key.toList := by decide
  refine ⟨keys.1, ?_⟩
  intro entry member
  exact keys.2 entry.1 (List.mem_map_of_mem member)

/-- No carriage return stands in the file, so that its line ends stay as they are. -/
theorem file_text_breaks (entries : List (String × String))
    (bare : ∀ entry ∈ entries, Toml.IsBare entry.1.toList) :
    Toml.dropCarriageReturns (Toml.tableText settingsTable entries) =
      Toml.tableText settingsTable entries := by
  have kept (text : List Char) (absent : '\r' ∉ text) : Toml.dropCarriageReturns text = text := by
    fun_induction Toml.dropCarriageReturns text with
    | case1 => rfl
    | case2 => simp at absent
    | case3 c rest _ ih => rw [ih (fun member => absent (List.mem_cons_of_mem c member))]
  apply kept
  intro member
  simp only [Toml.tableText, List.mem_append, List.mem_flatMap] at member
  rcases member with header | ⟨entry, among, line⟩
  · exact absurd header (by decide)
  · simp only [Toml.entryLine, List.mem_append] at line
    rcases line with ((key | sign) | text) | ending
    · exact absurd ((bare entry among).2 _ key) (by decide)
    · exact absurd sign (by decide)
    · exact absurd (Json.quote_plain _ _ text) (by decide)
    · exact absurd ending (by decide)

/-! Reading it -/

theorem string_at_of_perm {s : Settings} {strings : List (String × String)}
    (order : strings.Perm s.texts) (path : Path) {key text : String} (default : String)
    (among : (key, text) ∈ s.texts) :
    stringAt path (strings.map fun (key, s) => (key, .string s)) key default = .ok text := by
  have distinct :
      ((strings.map fun (key, s) => (key, Toml.Value.string s)).map Prod.fst).Nodup := by
    have keys := (order.map Prod.fst).nodup_iff.mpr (texts_keys s).1
    simpa [Function.comp_def] using keys
  have member : (key, Toml.Value.string text) ∈
      strings.map fun (key, s) => (key, Toml.Value.string s) :=
    List.mem_map_of_mem (f := fun (key, s) => (key, Toml.Value.string s)) (order.mem_iff.mpr among)
  rw [stringAt, Association.lookup_of_distinct distinct member]

theorem of_document_table {s : Settings} {strings : List (String × String)}
    (order : strings.Perm s.texts) (path : Path) :
    ofDocument path [(settingsTable, .table (strings.map fun (key, s) => (key, .string s)))] =
      .ok s := by
  have found (key text default : String) (among : (key, text) ∈ s.texts) :=
    string_at_of_perm order path default among
  have schema := fun default => found schemaKey s.schemaPath default (by simp [texts])
  have snapshot := fun default => found snapshotKey s.snapshotPath default (by simp [texts])
  have types := fun default => found typeKey s.typePath default (by simp [texts])
  simp only [ofDocument, entriesOf, List.lookup_cons, beq_self_eq_true, bind, Except.bind, schema,
    snapshot, types]
  rfl

theorem of_file_text {s : Settings} {entries : List (String × Json)}
    (order : entries.Perm s.toEntries) (path : Path) :
    ofText path (fileText entries) =
      if s.IsBasic then .ok s else .error (.storage (.settingsMalformed path)) := by
  obtain ⟨strings, same, rfl⟩ := strings_of_perm order
  clear order
  have keys := (same.map Prod.fst).nodup_iff.mpr (texts_keys s).1
  have bare : ∀ entry ∈ strings, Toml.IsBare entry.1.toList :=
    fun entry member => (texts_keys s).2 entry (same.mem_iff.mp member)
  have named : Toml.IsBare settingsTable.toList := by decide
  have three : strings.length = 3 := same.length_eq
  have long : strings.length + 1 < (Toml.tableText settingsTable strings).length + 1 := by
    have header : settingsTable.toList.length = 11 := rfl
    simp [Toml.tableText, header, three]
    omega
  have basic : (∀ entry ∈ strings, Toml.IsBasic entry.2.toList) ↔ s.IsBasic := by
    simp only [same.mem_iff, IsBasic]
  have read := Toml.read_table_text named bare keys long
  rw [ofText, Toml.read, file_text, file_text_breaks strings bare]
  simp only [read, basic]
  by_cases all : s.IsBasic
  · simp only [all, if_true, Except.map, Toml.entries_of_document]
    exact of_document_table same path
  · simp only [all, if_false, Except.map]

/-! Saving and loading -/

theorem perform_load {w : World} {path : Path} {text : String} (found : w.read path = .ok text) :
    perform (load path) w = (ofText path text, w) := by
  rw [load, perform_bind, perform_read found]
  simp only
  cases ofText path text with
  | ok s => rfl
  | error failure => rfl

theorem perform_save_entries {w : World} {path : Path} (writable : w.Writable path)
    (entries : List (String × Json)) :
    ∃ after, perform (saveEntries entries path) w = (.ok path, after) ∧
      after.read path = .ok (fileText entries) := by
  obtain ⟨after, wrote, held⟩ := World.write_read writable (fileText entries)
  refine ⟨after, ?_, held⟩
  rw [saveEntries, perform_bind_ok_iff]
  exact ⟨(), after, (perform_write_ok_iff _).mpr wrote, rfl⟩

theorem perform_save_load {w : World} {path : Path} (writable : w.Writable path)
    (entries : List (String × Json)) :
    (perform (saveEntries entries path >>= load) w).1 = ofText path (fileText entries) := by
  obtain ⟨after, saved, held⟩ := perform_save_entries writable entries
  rw [perform_bind, saved]
  simp only [perform_load held]

/-- Settings can be saved wherever a file can be written, with their entries in any order. Loading
gives them back if they lie in the basic plane, and refuses the file otherwise. -/
theorem settings_kept {s : Settings} {entries : List (String × Json)}
    (order : entries.Perm s.toEntries) {w : World} {path : Path} (writable : w.Writable path) :
    (perform (saveEntries entries path) w).1 = .ok path ∧
      (perform (saveEntries entries path >>= load) w).1 =
        if s.IsBasic then .ok s else .error (.storage (.settingsMalformed path)) := by
  constructor
  · obtain ⟨after, saved, _⟩ := perform_save_entries writable entries
    rw [saved]
  · rw [perform_save_load writable, of_file_text order]

def oddSettings : Settings where
  schemaPath := "größe \"1\"\\\n\x7f.sql"
  snapshotPath := ""
  typePath := "\x00\uffff/"

theorem empty_writable (path : Path) (location : Location) (plain : path.hasNul = false)
    (located : Tree.locate {} [] path = .ok location) (below : location ≠ []) :
    World.Writable {} path := by
  refine ⟨plain, location, located, ?_⟩
  cases location with
  | nil => exact absurd rfl below
  | cons name names => exact (nofun : (none : Option Node) ≠ some .folder)

theorem settings_kept_odd :
    World.Writable {} "c.toml" ∧
      (perform (save oddSettings "c.toml" >>= load) {}).1 = .ok oddSettings := by
  have writable : World.Writable {} "c.toml" :=
    empty_writable _ ["c.toml"] (by decide) rfl (by decide)
  have kept := (settings_kept (List.Perm.refl oddSettings.toEntries) writable).2
  rw [if_pos (by decide)] at kept
  exact ⟨writable, kept⟩

def smileySettings : Settings where
  schemaPath := "😀.sql"

/-- The escape of a smiley is two halves, neither of which a document may name. -/
theorem smiley_refused :
    World.Writable {} "c.toml" ∧
      (perform (save smileySettings "c.toml" >>= load) {}).1 =
        .error (.storage (.settingsMalformed "c.toml")) := by
  have writable : World.Writable {} "c.toml" :=
    empty_writable _ ["c.toml"] (by decide) rfl (by decide)
  refine ⟨writable, ?_⟩
  rw [save, perform_save_load writable, of_file_text (List.Perm.refl _), if_neg (by decide)]

end Settings

end SchemaCompiler.Workspace
