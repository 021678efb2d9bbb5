import SchemaCompiler.Proofs.Ddl.Steps
import SchemaCompiler.Proofs.Outcome
import SchemaCompiler.Proofs.Schema.Catalog
import SchemaCompiler.Proofs.Text.Cutting
import SchemaCompiler.Proofs.Text.Lowercase

/-!
What holds of every table and column that is read from a dump, whatever its lines. Column lines
build sound columns, key lines only set marks, and a table that is opened goes to the end, where
it stays while it is open.
-/

namespace SchemaCompiler.Ddl

open Text Outcome

/-- Equal to its own trimmed lower case. -/
def Normal (label : String) : Prop := lower (trimString label) = label

structure SoundField (f : Field) : Prop where
  named : f.title ≠ ""
  lowered : lower f.title = f.title
  consistent : f.checkConsistency = .ok ()
  datatype : f.datatype ∈
    [Datatype.signed64, .unsigned64, .string, .enum, .set, .byte, .json]
  bytes : f.bytes =
    if f.datatype = .signed64 ∨ f.datatype = .unsigned64 then some 64 else none
  characters : f.characters.isSome ↔ f.datatype = .string
  decimals : f.decimals = none
  regex : f.regex = none
  generated : f.generated = f.increment
  increment : f.increment = true → f.datatype = .signed64 ∨ f.datatype = .unsigned64
  labels : ∀ found, f.labels = some found → found ≠ [] ∧ ∀ label ∈ found, Normal label
  members : ∀ found, f.members = some found →
    found.toList ≠ [] ∧ ∀ label ∈ found.toList, Normal label

structure SoundTable (t : Table) : Prop where
  named : t.title ≠ ""
  plain : ∀ c ∈ t.title.toList, c ≠ '\x60' ∧ isBlank c = false
  fields : ∀ f ∈ t.fields.entries, t.field? f.title = some f ∧ SoundField f

def SoundDatabase (db : Database) : Prop :=
  ∀ t ∈ db.tables.entries, db.table? t.title = some t ∧ SoundTable t

/-- A table that is open is stored under its title, behind all others. -/
structure SoundReading (reading : Reading) : Prop where
  database : SoundDatabase reading.database
  opened : ∀ title, reading.position = .inside title →
    ∃ t, reading.database.table? title = some t ∧ t.title = title ∧
      reading.database.tables.entries.getLast? = some t

theorem sound_table {t : Table} (named : t.title ≠ "")
    (plain : ∀ c ∈ t.title.toList, c ≠ '\x60' ∧ isBlank c = false)
    (fields : ∀ f ∈ t.fields.entries, SoundField f) : SoundTable t :=
  ⟨named, plain, fun f member => ⟨Catalog.find_entry member, fields f member⟩⟩

theorem sound_database {db : Database} (tables : ∀ t ∈ db.tables.entries, SoundTable t) :
    SoundDatabase db :=
  fun t member => ⟨Catalog.find_entry member, tables t member⟩

/-! Labels -/

theorem groups_ne_nil (tokens : List Token) : groups tokens ≠ [] := by
  cases tokens with
  | nil => simp [groups]
  | cons token rest =>
      rw [groups]
      split
      · simp
      · split <;> simp

theorem mapM_ne_nil {α β : Type} {f : α → Option β} {items : List α} {found : List β}
    (listed : items.mapM f = some found) (some : items ≠ []) : found ≠ [] := by
  cases items with
  | nil => exact absurd rfl some
  | cons first rest =>
      rw [List.mapM_cons] at listed
      obtain ⟨head, _, behind⟩ := Option.bind_eq_some_iff.mp listed
      obtain ⟨tail, _, same⟩ := Option.bind_eq_some_iff.mp behind
      cases same
      exact List.cons_ne_nil head tail

theorem normal_lower_trim (text : List Char) :
    Normal (String.ofList (lowerFrom false (trim text))) := by
  simp [Normal, lower, trimString, lower_trim_kept]

theorem labels_normal {text : List Char} {found : List String} (read : labels text = .ok found) :
    found ≠ [] ∧ ∀ label ∈ found, Normal label := by
  obtain ⟨tokens, _, rest⟩ := (bind_ok_iff _ _ _).mp read
  simp only [fail] at rest
  split at rest
  · cases rest
  · split at rest
    · cases rest
    · split at rest
      · cases rest
      · split at rest
        · cases rest
        · next elements listed =>
          cases rest
          constructor
          · have some := mapM_ne_nil listed (groups_ne_nil _)
            simpa using some
          · intro label member
            obtain ⟨element, _, same⟩ := List.mem_map.mp member
            rw [← same]
            exact normal_lower_trim element

theorem normal_members {found : List String}
    (normal : found ≠ [] ∧ ∀ label ∈ found, Normal label) :
    (LabelSet.ofList found).toList ≠ [] ∧
      ∀ label ∈ (LabelSet.ofList found).toList, Normal label := by
  constructor
  · obtain ⟨label, member⟩ := List.exists_mem_of_ne_nil found normal.1
    exact List.ne_nil_of_mem (LabelSet.mem_of_list.mpr member)
  · intro label member
    exact normal.2 label (LabelSet.mem_of_list.mp member)

/-! Columns -/

theorem lift_parse_ok {α : Type} {x : Except ParseError α} {a : α}
    (lifted : liftParse x = .ok a) : x = .ok a := by
  cases x with
  | error e => cases lifted
  | ok b =>
      cases lifted
      rfl

/-- Each of the six shapes of a type gives a sound field of the given title. -/
theorem read_type_sound {title descriptor : String} {span line : List Char} {grouped : Bool}
    {flags : List String} {f : Field} (named : title ≠ "") (lowered : lower title = title)
    (read : readType title descriptor span grouped flags line = .ok f) : SoundField f := by
  rw [readType] at read
  split at read
  · cases read
    cases flags.contains "unsigned" <;> constructor <;>
      simp_all [Field.checkConsistency, consistency]
  split at read
  · obtain ⟨size, _, same⟩ := (bind_ok_iff _ _ _).mp read
    cases same
    constructor <;> simp_all [Field.checkConsistency, consistency]
  split at read
  · obtain ⟨found, listed, same⟩ := (bind_ok_iff _ _ _).mp read
    have normal := labels_normal (lift_parse_ok listed)
    cases same
    constructor <;> simp_all [Field.checkConsistency, consistency]
  split at read
  · obtain ⟨found, listed, same⟩ := (bind_ok_iff _ _ _).mp read
    have normal := normal_members (labels_normal (lift_parse_ok listed))
    cases same
    constructor <;> simp_all [Field.checkConsistency, consistency]
  split at read
  · cases read
    constructor <;> simp_all [Field.checkConsistency, consistency]
  split at read
  · cases read
    constructor <;> simp_all [Field.checkConsistency, consistency]
  · cases read

/-- The marks that key lines and flags set leave a field sound. -/
theorem sound_marked {f : Field} (sound : SoundField f) (primary unique required : Bool)
    (foreign : Option String) : SoundField { f with primary, unique, required, foreign } :=
  ⟨sound.named, sound.lowered, sound.consistent, sound.datatype, sound.bytes, sound.characters,
    sound.decimals, sound.regex, sound.generated, sound.increment, sound.labels, sound.members⟩

/-- A column is what its type says of it, marked by its flags. -/
theorem read_column_typed {name : Token} {rest : List Token} {line : List Char} {f : Field}
    (read : readColumn name rest line = .ok f) :
    lower name.value ≠ "" ∧ ∃ descriptor span grouped flags typed primary unique required,
      readType (lower name.value) descriptor span grouped flags line = .ok typed ∧
      f = { typed with primary, unique, required } := by
  simp only [readColumn] at read
  split at read
  · cases read
  · next named =>
    refine ⟨by simpa using named, ?_⟩
    split at read
    · cases read
    · split at read
      · cases read
      · obtain ⟨size, _, behind⟩ := (bind_ok_iff _ _ _).mp read
        obtain ⟨typed, determined, same⟩ := (bind_ok_iff _ _ _).mp behind
        cases same
        exact ⟨_, _, _, _, typed, _, _, _, determined, rfl⟩

theorem read_column_sound {name : Token} {rest : List Token} {line : List Char} {f : Field}
    (read : readColumn name rest line = .ok f) : SoundField f := by
  have lowered : lower (lower name.value) = lower name.value := by
    simp [lower, lower_idempotent]
  obtain ⟨named, _, _, _, _, typed, primary, unique, required, determined, rfl⟩ :=
    read_column_typed read
  exact sound_marked (read_type_sound named lowered determined) primary unique required _

/-! Tables -/

/-- All fields of a table are of a kind. -/
def AllFields (kind : Field → Prop) (t : Table) : Prop := ∀ f ∈ t.fields.entries, kind f

/-- Columns are read as fields of the kind, and marks leave them in it. -/
structure Lasting (kind : Field → Prop) : Prop where
  read : ∀ {name rest line f}, readColumn name rest line = .ok f → kind f
  marked : ∀ {f}, kind f → ∀ primary unique required foreign,
    kind { f with primary, unique, required, foreign }

section Kinds

variable {kind : Field → Prop} {t : Table}

theorem modify_fields (all : AllFields kind t) (column : String) (change : Field → Field)
    (keeps : ∀ f, Titled.title f = column → Titled.title (change f) = column)
    (each : ∀ f, kind f → kind (change f)) :
    AllFields kind { t with fields := t.fields.modify column change keeps } := by
  intro f member
  rcases Catalog.mem_modify keeps member with old | ⟨old, among, same⟩
  · exact all f old
  · rw [same]
    exact each old (all old among)

theorem mark_primary_fields (lasting : Lasting kind) (all : AllFields kind t) (line : List Char)
    (columns : List String) :
    (markPrimaryColumns line t columns).table.title = t.title ∧
      AllFields kind (markPrimaryColumns line t columns).table := by
  induction columns generalizing t with
  | nil => exact ⟨rfl, all⟩
  | cons column rest ih =>
      rw [markPrimaryColumns]
      split
      · exact ih (modify_fields all column _ _ fun f good => lasting.marked good _ _ _ _)
      · exact ⟨rfl, all⟩

theorem mark_foreign_fields (lasting : Lasting kind) (all : AllFields kind t) (target : String)
    (columns : List String) :
    (markForeignColumns target t columns).table.title = t.title ∧
      AllFields kind (markForeignColumns target t columns).table := by
  induction columns generalizing t with
  | nil => exact ⟨rfl, all⟩
  | cons column rest ih =>
      rw [markForeignColumns]
      split
      · exact ih (modify_fields all column _ _ fun f good => lasting.marked good _ _ _ _)
      · exact ih all

theorem read_primary_key_fields (lasting : Lasting kind) (all : AllFields kind t)
    (tokens : List Token) (line : List Char) :
    (readPrimaryKey tokens line t).table.title = t.title ∧
      AllFields kind (readPrimaryKey tokens line t).table := by
  rw [readPrimaryKey]
  split
  · exact ⟨rfl, all⟩
  · exact mark_primary_fields lasting all line _

theorem read_unique_key_fields (lasting : Lasting kind) (all : AllFields kind t)
    (tokens : List Token) :
    (readUniqueKey tokens t).table.title = t.title ∧
      AllFields kind (readUniqueKey tokens t).table := by
  rw [readUniqueKey]
  split
  · exact ⟨rfl, all⟩
  · split
    · split
      · exact ⟨rfl, modify_fields all _ _ _ fun f good => lasting.marked good _ _ _ _⟩
      · exact ⟨rfl, all⟩
    · exact ⟨rfl, all⟩

theorem read_foreign_key_fields (lasting : Lasting kind) (all : AllFields kind t)
    (tokens : List Token) :
    (readForeignKey tokens t).table.title = t.title ∧
      AllFields kind (readForeignKey tokens t).table := by
  simp only [readForeignKey]
  split
  · exact ⟨rfl, all⟩
  · split
    · exact ⟨rfl, all⟩
    · exact mark_foreign_fields lasting all _ _

theorem read_column_line_fields (lasting : Lasting kind) (all : AllFields kind t) (name : Token)
    (rest : List Token) (line : List Char) :
    (readColumnLine name rest line t).table.title = t.title ∧
      AllFields kind (readColumnLine name rest line t).table := by
  rw [readColumnLine]
  split
  · exact ⟨rfl, all⟩
  · next f read =>
    split
    · exact ⟨rfl, all⟩
    · refine ⟨rfl, fun other member => ?_⟩
      rcases Catalog.mem_put member with same | old
      · rw [same]
        exact lasting.read read
      · exact all other old

/-- One case for each kind of line in the body of a table. The title stays, too. -/
theorem read_table_line_fields (lasting : Lasting kind) (all : AllFields kind t)
    (line : List Char) :
    (readTableLine line t).table.title = t.title ∧ AllFields kind (readTableLine line t).table := by
  rw [readTableLine]
  split
  · exact ⟨rfl, all⟩
  split
  · exact ⟨rfl, all⟩
  · exact ⟨rfl, all⟩
  · split
    · exact read_primary_key_fields lasting all _ line
    split
    · exact read_unique_key_fields lasting all _
    split
    · exact read_foreign_key_fields lasting all _
    split
    · exact read_column_line_fields lasting all _ _ line
    · exact ⟨rfl, all⟩

/-- A line leaves the fields of all tables in a lasting kind. -/
theorem advance_fields (lasting : Lasting kind) {reading : Reading}
    (all : ∀ t ∈ reading.database.tables.entries, AllFields kind t) (line : List Char) :
    ∀ t ∈ (advance reading line).reading.database.tables.entries, AllFields kind t := by
  have moves := advance_moves reading line
  generalize advance reading line = step at moves
  cases moves with
  | opens opening =>
      rw [openTable]
      split
      · exact all
      · intro t member
        rcases Catalog.mem_put_last member with same | old
        · rw [same]
          exact fun f none => absurd none List.not_mem_nil
        · exact all t old
  | stays => exact all
  | closes notes inside found closing => exact all
  | @changes title t inside found =>
      intro other member
      rcases Catalog.mem_put member with same | old
      · rw [same]
        exact (read_table_line_fields lasting (all t (List.mem_of_find?_eq_some found)) line).2
      · exact all other old

theorem feed_fields (lasting : Lasting kind) {reading : Reading}
    (all : ∀ t ∈ reading.database.tables.entries, AllFields kind t) (lines : List (List Char)) :
    ∀ t ∈ (feed reading lines).database.tables.entries, AllFields kind t := by
  induction lines generalizing reading with
  | nil => exact all
  | cons line rest ih => exact ih (advance_fields lasting all line)

theorem parsed_fields (lasting : Lasting kind) {schema title : String} {db : Database}
    (parsed : parseSchema schema title = .ok db) :
    ∀ t ∈ db.tables.entries, AllFields kind t := by
  rw [read_lines_feed parsed]
  exact feed_fields lasting (fun t none => absurd none List.not_mem_nil) _

end Kinds

theorem sound_fields_last : Lasting SoundField :=
  ⟨read_column_sound, fun sound _ _ _ _ => sound_marked sound _ _ _ _⟩

/-- What a line does to a sound table: the title stays, and so does soundness. -/
def Keeps (t : Table) (effect : TableEffect) : Prop :=
  effect.table.title = t.title ∧ SoundTable effect.table

theorem read_table_line_keeps {t : Table} (sound : SoundTable t) (line : List Char) :
    Keeps t (readTableLine line t) := by
  obtain ⟨title, fields⟩ := read_table_line_fields sound_fields_last
    (fun f member => (sound.fields f member).2) line
  exact ⟨title, sound_table (by rw [title]; exact sound.named) (by rw [title]; exact sound.plain)
    fields⟩

/-! Titles of tables -/

theorem last_name_part_solid {token : List Char} (word : ∀ c ∈ token, isBlank c = false) :
    ∀ c ∈ lastNamePart token, isBlank c = false := by
  rw [lastNamePart]
  split
  · next front last cut =>
    intro c member
    rcases List.mem_cons.mp member with same | behind
    · rw [same]
      decide
    · apply word c
      rw [cut_at_last_parts cut]
      simp [behind]
  · exact word

-- The name lies between the first two backticks of the text, so it holds none of them.
theorem unwrap_inside {text name : List Char} (unwrapped : unwrapBackticks text = .ok name) :
    '\x60' ∉ name ∧ ∀ c ∈ name, c ∈ text := by
  rw [unwrapBackticks] at unwrapped
  split at unwrapped
  · cases unwrapped
  · next front behind opening =>
    split at unwrapped
    · cases unwrapped
    · next inner rest closing =>
      cases unwrapped
      refine ⟨not_mem_cut_front closing, ?_⟩
      intro c member
      rw [cut_at_parts opening, cut_at_parts closing]
      simp [member]

theorem read_table_name_plain {line : List Char} {title : String}
    (read : readTableName line = .ok title) :
    title ≠ "" ∧ ∀ c ∈ title.toList, c ≠ '\x60' ∧ isBlank c = false := by
  simp only [readTableName] at read
  split at read
  · cases read
  · next token found =>
    obtain ⟨name, unwrapped, behind⟩ := (bind_ok_iff _ _ _).mp read
    split at behind
    · cases behind
    · next some =>
      cases behind
      have blanks := last_name_part_solid (words_solid (List.mem_of_find?_eq_some found))
      obtain ⟨absent, among⟩ := unwrap_inside unwrapped
      constructor
      · intro empty
        have nothing := congrArg String.toList empty
        rw [String.toList_ofList] at nothing
        exact some (by simp [nothing])
      · intro c member
        rw [String.toList_ofList] at member
        constructor
        · rintro rfl
          exact absent member
        · exact blanks c (among c member)

/-! Readings -/

/-- The open table is the last one of a sound reading. -/
theorem sound_within {reading : Reading} {title : String} {t : Table} (sound : SoundReading reading)
    (inside : reading.position = .inside title) (found : reading.database.table? title = some t) :
    ∃ others, Within reading.database.title others t reading := by
  obtain ⟨opened, stored, titled, last⟩ := sound.opened title inside
  rw [found] at stored
  cases stored
  obtain ⟨others, shape⟩ := List.getLast?_eq_some_iff.mp last
  exact ⟨others, by rw [inside, titled], rfl, shape⟩

theorem within_update {database : String} {others : List Table} {t last : Table}
    {reading : Reading} (within : Within database others t reading)
    (titled : last.title = t.title) :
    Within database others last { reading with database := reading.database.update last } :=
  ⟨by rw [titled]; exact within.position, within.title,
    Catalog.put_last_at within.tables titled.symm⟩

theorem open_table_sound {reading : Reading} (sound : SoundReading reading) (line : List Char) :
    SoundReading (openTable reading line).reading := by
  rw [openTable]
  split
  · exact sound
  · next title read =>
    obtain ⟨named, plain⟩ := read_table_name_plain read
    have new : SoundTable { title } :=
      sound_table named plain (by simp [Catalog.empty])
    have last := Catalog.last_put_last reading.database.tables { title }
    constructor
    · refine sound_database fun t member => ?_
      rcases Catalog.mem_put_last member with same | old
      · exact same ▸ new
      · exact (sound.database t old).2
    · rintro _ ⟨⟩
      exact ⟨{ title }, Catalog.find_entry (List.mem_of_getLast? last), rfl, last⟩

/-- The table that is open is the last one, so changing it keeps it there. -/
theorem update_sound {reading : Reading} {title : String} {t : Table}
    (sound : SoundReading reading) (inside : reading.position = .inside title)
    (found : reading.database.table? title = some t) (line : List Char) :
    SoundReading { reading with
      database := reading.database.update (readTableLine line t).table } := by
  obtain ⟨opened, stored, titled, last⟩ := sound.opened title inside
  rw [found] at stored
  cases stored
  obtain ⟨kept, good⟩ :=
    read_table_line_keeps (sound.database t (List.mem_of_getLast? last)).2 line
  have final : (reading.database.update (readTableLine line t).table).tables.entries.getLast? =
      some (readTableLine line t).table := Catalog.last_put last kept.symm
  constructor
  · refine sound_database fun other member => ?_
    rcases Catalog.mem_put member with same | old
    · exact same ▸ good
    · exact (sound.database other old).2
  · intro other same
    rw [inside, Position.inside.injEq] at same
    refine ⟨(readTableLine line t).table, ?_, ?_, final⟩
    · rw [← same, ← titled, ← kept]
      exact Catalog.find_entry (List.mem_of_getLast? final)
    · rw [kept, titled, same]

/-- A line leaves a sound reading sound, also when it fails. -/
theorem advance_sound {reading : Reading} (sound : SoundReading reading) (line : List Char) :
    SoundReading (advance reading line).reading := by
  have moves := advance_moves reading line
  generalize advance reading line = step at moves
  cases moves with
  | opens opening => exact open_table_sound sound line
  | stays => exact sound
  | closes notes inside found closing => exact ⟨sound.database, by simp⟩
  | @changes title t inside found => exact update_sound sound inside found line

theorem feed_sound {reading : Reading} (sound : SoundReading reading)
    (lines : List (List Char)) : SoundReading (feed reading lines) := by
  induction lines generalizing reading with
  | nil => exact sound
  | cons line rest ih => exact ih (advance_sound sound line)

theorem sound_start (title : String) : SoundReading { database := { title } } := by
  constructor
  · exact sound_database (by simp [Catalog.empty])
  · simp

/-- Whatever lines are fed, a line that fails leaves the position, the reading stays sound, and
so does every database that a dump is read as. -/
theorem reading_sound (title : String) :
    (∀ lines : List (List Char), SoundReading (feed { database := { title } } lines)) ∧
    (∀ reading line, (advance reading line).failure.isSome →
      (advance reading line).reading.position = reading.position) ∧
    ∀ schema db, parseSchema schema title = .ok db → SoundDatabase db := by
  refine ⟨feed_sound (sound_start title), fun _ _ => failed_position, ?_⟩
  intro schema db parsed
  rw [read_lines_feed parsed]
  exact (feed_sound (sound_start title) _).database

def ordersDump : String := "CREATE TABLE `orders` (\n`Id` int,\n`Paid` enum('Ja')\n);"

theorem reading_sound_orders :
    (∃ db, parseSchema ordersDump "shop" = .ok db ∧ db.tables.titles = ["orders"] ∧
      SoundDatabase db) ∧
    ∃ reading, (advance reading "`id` blob".toList).failure.isSome ∧
      reading.position = .inside "orders" ∧
      (advance reading "`id` blob".toList).reading.position = .inside "orders" := by
  obtain ⟨_, fails, parse⟩ := reading_sound "shop"
  constructor
  · have titles : (parseSchema ordersDump "shop").toOption.map (·.tables.titles) =
        some ["orders"] := by decide +kernel
    cases parsed : parseSchema ordersDump "shop" with
    | error e =>
        rw [parsed] at titles
        cases titles
    | ok db =>
        rw [parsed] at titles
        exact ⟨db, rfl, Option.some.inj titles, parse ordersDump db parsed⟩
  · have refused : (advance ⟨.inside "orders", Database.add { title := "shop" }
        { title := "orders" }⟩ "`id` blob".toList).failure.isSome := by decide +kernel
    exact ⟨_, refused, rfl, fails _ _ refused⟩

end SchemaCompiler.Ddl
