import Mathlib.Data.List.Forall2
import SchemaCompiler.Proofs.Ddl.Invariant

/-!
What a line leaves alone. A line that is read opens a table, closes one, adds a column to the open
table or marks columns of it in one way; a line that fails has at most made columns primary.
-/

namespace SchemaCompiler.Ddl

open Text

/-- The ways in which key lines mark columns. -/
inductive Mark where
  | primary
  | unique
  | foreign
  deriving DecidableEq

/-- The second field is the first one, at most with the mark set. -/
def Mark.Sets : Mark → Field → Field → Prop
  | .primary, f, g => g = f ∨ g = { f with primary := true }
  | .unique, f, g => g = f ∨ g = { f with unique := true }
  | .foreign, f, g => g = f ∨ ∃ target, g = { f with foreign := some target }

/-- The same table with the same fields in the same order, at most with the mark set on some. -/
structure Marked (mark : Mark) (before after : Table) : Prop where
  title : after.title = before.title
  fields : List.Forall₂ mark.Sets before.fields.entries after.fields.entries

/-- One more field, behind all others. -/
structure Grown (f : Field) (before after : Table) : Prop where
  title : after.title = before.title
  fields : after.fields.entries = before.fields.entries ++ [f]

/-! Marks -/

theorem sets_refl (mark : Mark) (f : Field) : mark.Sets f f := by
  cases mark with
  | primary | unique | foreign => exact Or.inl rfl

theorem sets_trans {mark : Mark} {f g h : Field} (first : mark.Sets f g) (second : mark.Sets g h) :
    mark.Sets f h := by
  cases mark with
  | primary | unique =>
      rcases first with rfl | rfl
      · exact second
      · rcases second with rfl | rfl
        · exact Or.inr rfl
        · exact Or.inr rfl
  | foreign =>
      rcases first with rfl | ⟨_, rfl⟩
      · exact second
      · rcases second with rfl | ⟨target, rfl⟩
        · exact Or.inr ⟨_, rfl⟩
        · exact Or.inr ⟨target, rfl⟩

theorem marked_refl (mark : Mark) (t : Table) : Marked mark t t :=
  ⟨rfl, List.forall₂_same.mpr fun f _ => sets_refl mark f⟩

theorem all_sets_trans {mark : Mark} {a b c : List Field} (first : List.Forall₂ mark.Sets a b)
    (second : List.Forall₂ mark.Sets b c) : List.Forall₂ mark.Sets a c := by
  induction first generalizing c with
  | nil => exact second
  | cons head _ ih =>
      cases second with
      | cons next rest => exact .cons (sets_trans head next) (ih rest)

theorem marked_trans {mark : Mark} {a b c : Table} (first : Marked mark a b)
    (second : Marked mark b c) : Marked mark a c :=
  ⟨second.title.trans first.title, all_sets_trans first.fields second.fields⟩

theorem marked_modify {mark : Mark} (t : Table) (column : String) (change : Field → Field)
    (keeps : ∀ f, Titled.title f = column → Titled.title (change f) = column)
    (sets : ∀ f, mark.Sets f (change f)) :
    Marked mark t { t with fields := t.fields.modify column change keeps } := by
  refine ⟨rfl, ?_⟩
  simp only [Catalog.modify, Catalog.modifyEntries, List.forall₂_map_right_iff]
  refine List.forall₂_same.mpr fun f _ => ?_
  split
  · exact sets f
  · exact sets_refl mark f

/-! Lines in the body of a table -/

theorem mark_primary_marked (line : List Char) (t : Table) (columns : List String) :
    Marked .primary t (markPrimaryColumns line t columns).table := by
  induction columns generalizing t with
  | nil => exact marked_refl _ t
  | cons column rest ih =>
      rw [markPrimaryColumns]
      split
      · have first : Marked .primary t (t.markPrimary column) :=
          marked_modify t column _ _ fun f => Or.inr rfl
        exact marked_trans first (ih _)
      · exact marked_refl _ t

theorem mark_foreign_marked (target : String) (t : Table) (columns : List String) :
    Marked .foreign t (markForeignColumns target t columns).table := by
  induction columns generalizing t with
  | nil => exact marked_refl _ t
  | cons column rest ih =>
      rw [markForeignColumns]
      split
      · have first : Marked .foreign t (t.markForeign column target) :=
          marked_modify t column _ _ fun f => Or.inr ⟨target, rfl⟩
        exact marked_trans first (ih _)
      · exact ih t

theorem mark_foreign_passes (target : String) (t : Table) (columns : List String) :
    (markForeignColumns target t columns).failure = none := by
  induction columns generalizing t with
  | nil => rfl
  | cons column rest ih =>
      rw [markForeignColumns]
      split
      · exact ih _
      · exact ih t

/-- What a line in the body of a table may do to it. -/
inductive Touches (t : Table) (effect : TableEffect) : Prop
  | grows (f : Field) (grown : Grown f t effect.table) (passes : effect.failure = none)
  | marks (mark : Mark) (marked : Marked mark t effect.table)
      (failing : effect.failure ≠ none → mark = .primary)

theorem touches_same (t : Table) (notes : List Note) (failure : Option Failure) :
    Touches t { table := t, notes, failure } :=
  .marks .primary (marked_refl _ t) fun _ => rfl

theorem read_primary_key_touches (tokens : List Token) (line : List Char) (t : Table) :
    Touches t (readPrimaryKey tokens line t) := by
  rw [readPrimaryKey]
  split
  · exact touches_same t _ _
  · exact .marks .primary (mark_primary_marked line t _) fun _ => rfl

theorem read_unique_key_touches (tokens : List Token) (t : Table) :
    Touches t (readUniqueKey tokens t) := by
  rw [readUniqueKey]
  split
  · exact touches_same t _ _
  · split
    · split
      · exact .marks .unique (marked_modify t _ _ _ fun f => Or.inr rfl) fun failing =>
          absurd rfl failing
      · exact touches_same t _ _
    · exact touches_same t _ _

theorem read_foreign_key_touches (tokens : List Token) (t : Table) :
    Touches t (readForeignKey tokens t) := by
  simp only [readForeignKey]
  split
  · exact touches_same t _ _
  · split
    · exact touches_same t _ _
    · next target _ =>
      refine .marks .foreign (mark_foreign_marked target.value t _) fun failing => ?_
      exact absurd (mark_foreign_passes target.value t _) failing

theorem read_column_line_touches (name : Token) (rest : List Token) (line : List Char)
    (t : Table) : Touches t (readColumnLine name rest line t) := by
  rw [readColumnLine]
  split
  · exact touches_same t _ _
  · next f _ =>
    split
    · exact touches_same t _ _
    · next fresh =>
      have absent : f.title ∉ t.fields.titles := by simpa [Catalog.contains] using fresh
      exact .grows f ⟨rfl, Catalog.put_new t.fields f absent⟩ rfl

/-- One case for each kind of line in the body of a table. -/
theorem read_table_line_touches (line : List Char) (t : Table) :
    Touches t (readTableLine line t) := by
  rw [readTableLine]
  split
  · exact touches_same t _ _
  split
  · exact touches_same t _ _
  · exact touches_same t _ _
  · split
    · exact read_primary_key_touches _ line t
    split
    · exact read_unique_key_touches _ t
    split
    · exact read_foreign_key_touches _ t
    split
    · exact read_column_line_touches _ _ line t
    · exact touches_same t _ _

/-! Readings -/

/-- What a line that is read may do to a reading. -/
inductive Framed (before after : Reading) : Prop
  /-- A new empty table is open and the last one; one of its title is gone. -/
  | opened (title : String) (position : after.position = .inside title)
      (name : after.database.title = before.database.title)
      (tables : after.database.tables.entries =
        before.database.tables.entries.filter (Table.title · != title) ++ [({ title } : Table)])
  | stayed (same : after = before)
  | closed (inside : ∃ title, before.position = .inside title) (outside : after.position = .outside)
      (same : after.database = before.database)
  | grew (database : String) (others : List Table) (t last : Table) (f : Field)
      (within : Within database others t before) (grown : Grown f t last)
      (result : Within database others last after)
  | marked (database : String) (others : List Table) (t last : Table) (mark : Mark)
      (within : Within database others t before) (marked : Marked mark t last)
      (result : Within database others last after)

/-- What a line that fails may have done to a reading. -/
inductive Refused (before after : Reading) : Prop
  | stayed (same : after = before)
  | marked (database : String) (others : List Table) (t last : Table)
      (within : Within database others t before) (marked : Marked .primary t last)
      (result : Within database others last after)

/-- What a line does to a sound reading, one case for each move. -/
theorem advance_frame {reading : Reading} (sound : SoundReading reading) (line : List Char) :
    ((advance reading line).failure = none → Framed reading (advance reading line).reading) ∧
      ((advance reading line).failure ≠ none → Refused reading (advance reading line).reading) := by
  have moves := advance_moves reading line
  generalize advance reading line = step at moves ⊢
  cases moves with
  | opens opening =>
      rw [openTable]
      split
      · exact ⟨fun passes => absurd passes (Option.some_ne_none _), fun _ => .stayed rfl⟩
      · next title _ =>
        exact ⟨fun _ => .opened title rfl rfl rfl, fun failed => absurd rfl failed⟩
  | stays => exact ⟨fun _ => .stayed rfl, fun failed => absurd rfl failed⟩
  | @closes title t notes inside found closing =>
      exact ⟨fun _ => .closed ⟨title, inside⟩ rfl rfl, fun failed => absurd rfl failed⟩
  | @changes title t inside found =>
      obtain ⟨others, within⟩ := sound_within sound inside found
      cases read_table_line_touches line t with
      | grows f grown passes =>
          have result := within_update within grown.title
          exact ⟨fun _ => .grew _ others t _ f within grown result, fun failed =>
            absurd passes failed⟩
      | marks mark marked failing =>
          have result := within_update within marked.title
          refine ⟨fun _ => .marked _ others t _ mark within marked result, fun failed => ?_⟩
          rw [failing failed] at marked
          exact .marked _ others t _ within marked result

/-- A line behind any others opens a table, closes one, adds a column or marks columns; when it
fails, the position stays and at most some columns of the open table have become primary. -/
theorem reached_line_frame {reading : Reading} (reached : Reachable reading) (line : List Char) :
    ((advance reading line).failure = none → Framed reading (advance reading line).reading) ∧
      ((advance reading line).failure ≠ none →
        Refused reading (advance reading line).reading) := by
  obtain ⟨title, lines, rfl⟩ := reached
  exact advance_frame (feed_sound (sound_start title) lines) line

def openOrders : Reading :=
  feed { database := { title := "shop" } }
    ["CREATE TABLE `orders` (".toList, "`id` int".toList, "`no` int".toList]

/-- A column is added, and a key line that fails at its second column leaves the first primary. -/
theorem reached_line_frame_orders :
    Reachable openOrders ∧
    ((advance openOrders "`paid` json".toList).failure = none ∧
      Framed openOrders (advance openOrders "`paid` json".toList).reading) ∧
    (advance openOrders "PRIMARY KEY (`id`, `nr`)".toList).failure ≠ none ∧
      Refused openOrders (advance openOrders "PRIMARY KEY (`id`, `nr`)".toList).reading ∧
      (advance openOrders "PRIMARY KEY (`id`, `nr`)".toList).reading.database.tables.entries.map
        (·.fields.entries.map Field.primary) = [[true, false]] := by
  have reached : Reachable openOrders := ⟨"shop", _, rfl⟩
  have passes : (advance openOrders "`paid` json".toList).failure = none := by decide +kernel
  have fails : (advance openOrders "PRIMARY KEY (`id`, `nr`)".toList).failure ≠ none := by
    decide +kernel
  exact ⟨reached, ⟨passes, (reached_line_frame reached _).1 passes⟩, fails,
    (reached_line_frame reached _).2 fails, by decide +kernel⟩

end SchemaCompiler.Ddl
