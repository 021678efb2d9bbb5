import Mathlib.Data.List.Basic
import SchemaCompiler.Proofs.Schema.Catalog
import SchemaCompiler.Proofs.Text.WideText
import SchemaCompiler.Schema.Stored

/-!
Databases as snapshots hold them, beside those of the schema: each of these is held in one form,
in which nothing of it is lost. Flags that are null are no different from false ones until they are
written, when they are left out.
-/

namespace SchemaCompiler

theorem text_key (text : String) :
    Scalar.key text = 5 :: text.toList.map fun c => (c.toNat : Int) := by
  simp [Scalar.key, WideText.points, Point.code, Function.comp_def]

/-- Texts without halves are ordered as strings are. -/
theorem text_key_lt {a b : String} (less : a < b) : Scalar.key a < Scalar.key b := by
  rw [text_key, text_key, List.cons_lt_cons_iff]
  refine .inr ⟨rfl, List.map_lt (fun c d below => ?_) (String.lt_iff.mp less)⟩
  exact Int.ofNat_lt.mpr below

theorem text_key_injective {a b : String} (same : Scalar.key a = Scalar.key b) : a = b := by
  rw [text_key, text_key, List.cons.injEq] at same
  refine String.toList_inj.mp ((List.map_inj_right fun c d equal => ?_).mp same.2)
  exact Char.toNat_inj.mp (Int.ofNat_inj.mp equal)

namespace Stored

/-! Databases of the schema -/

theorem or_null_injective {α : Type} {toJson : α → Json} (injective : Function.Injective toJson)
    (some : ∀ a, toJson a ≠ .null) : Function.Injective (orNull toJson) := by
  intro a b same
  cases a with
  | none =>
      cases b with
      | none => rfl
      | some right => exact absurd same.symm (some right)
  | some left =>
      cases b with
      | none => exact absurd same (some left)
      | some right => exact congrArg _ (injective same)

theorem of_labels_increasing (s : LabelSet) :
    (s.toList.map fun (member : String) => Scalar.text member).Pairwise fun a b => a.key < b.key :=
  List.pairwise_map.mpr (s.increasing.imp text_key_lt)

theorem of_labels_to_list (s : LabelSet) :
    (ScalarSet.ofList (s.toList.map fun (member : String) => Scalar.text member)).toList =
      s.toList.map fun (member : String) => Scalar.text member := by
  rw [ScalarSet.to_list_of_list, foldr_insert_by Scalar.key (of_labels_increasing s)]

theorem text_injective : Function.Injective fun (text : String) => Scalar.text text := by
  intro a b same
  cases same
  rfl

theorem json_text_injective : Function.Injective fun (text : String) => Json.string text := by
  intro a b same
  cases same
  rfl

theorem of_labels_injective {a b : LabelSet}
    (same : ScalarSet.ofList (a.toList.map fun (member : String) => Scalar.text member) =
      .ofList (b.toList.map fun (member : String) => Scalar.text member)) : a = b := by
  have lists := congrArg ScalarSet.toList same
  rw [of_labels_to_list, of_labels_to_list] at lists
  exact LabelSet.ext (List.map_injective_iff.mpr text_injective lists)

theorem of_field_injective : Function.Injective ofField := by
  intro a b same
  have integers : Function.Injective (orNull Json.integer) :=
    or_null_injective (fun _ _ => Json.integer.inj) fun _ => nofun
  have texts := or_null_injective json_text_injective fun _ => nofun
  simp only [ofField, Field.mk.injEq, Scalar.text.injEq, WideText.plain.injEq,
    Json.bool.injEq] at same
  obtain ⟨title, datatype, bytes, characters, decimals, regex, primary, unique, required, foreign,
    increment, generated, labels, members⟩ := same
  have labels := Option.map_injective (List.map_injective_iff.mpr json_text_injective) labels
  have members := Option.map_injective (fun _ _ equal => of_labels_injective equal) members
  cases a
  cases b
  simp_all [integers.eq_iff, texts.eq_iff]

theorem of_table_entries (t : SchemaCompiler.Table) :
    (ofTable t).fields.entries = t.fields.entries.map ofField :=
  Catalog.of_list_distinct (Catalog.map_distinct t.fields fun _ _ => text_key_injective)

theorem of_database_entries (db : SchemaCompiler.Database) :
    (ofDatabase db).tables.entries = db.tables.entries.map ofTable :=
  Catalog.of_list_distinct (Catalog.map_distinct db.tables fun _ _ => text_key_injective)

theorem of_table_injective : Function.Injective ofTable := by
  intro a b same
  have title : a.title = b.title := text_injective (congrArg Table.title same)
  have entries := congrArg (fun t => t.fields.entries) same
  simp only [of_table_entries] at entries
  have fields := Catalog.ext (List.map_injective_iff.mpr of_field_injective entries)
  cases a
  cases b
  simp_all

/-- Different databases are held in different forms. -/
theorem of_database_injective : Function.Injective ofDatabase := by
  intro a b same
  have title : a.title = b.title := json_text_injective (congrArg Database.title same)
  have entries := congrArg (fun db => db.tables.entries) same
  simp only [of_database_entries] at entries
  have tables := Catalog.ext (List.map_injective_iff.mpr of_table_injective entries)
  cases a
  cases b
  simp_all

/-! Flags that are null -/

def settledFlag (flag : Json) : Json := if flag.isNull then .bool false else flag

def Field.settled (f : Field) : Field :=
  { f with
    primary := settledFlag f.primary
    unique := settledFlag f.unique
    required := settledFlag f.required
    increment := settledFlag f.increment
    generated := settledFlag f.generated }

def Table.settled (t : Table) : Table :=
  { t with fields := .ofList (t.fields.entries.map Field.settled) }

/-- The database with false flags in place of those that are null. -/
def Database.settled (db : Database) : Database :=
  { db with tables := .ofList (db.tables.entries.map Table.settled) }

theorem table_settled_entries (t : Table) :
    t.settled.fields.entries = t.fields.entries.map Field.settled :=
  Catalog.of_list_distinct (Catalog.map_distinct t.fields fun _ _ same => same)

theorem database_settled_entries (db : Database) :
    db.settled.tables.entries = db.tables.entries.map Table.settled :=
  Catalog.of_list_distinct (Catalog.map_distinct db.tables fun _ _ same => same)

theorem of_field_settled (f : SchemaCompiler.Field) : (ofField f).settled = ofField f := rfl

theorem table_settled {t : Table} (each : ∀ f ∈ t.fields.entries, f.settled = f) :
    t.settled = t := by
  have entries : t.settled.fields.entries = t.fields.entries := by
    rw [table_settled_entries, List.map_congr_left each, List.map_id']
  exact congrArg (fun fields => { t with fields }) (Catalog.ext entries)

theorem database_settled {db : Database}
    (each : ∀ t ∈ db.tables.entries, ∀ f ∈ t.fields.entries, f.settled = f) : db.settled = db := by
  have entries : db.settled.tables.entries = db.tables.entries := by
    rw [database_settled_entries,
      List.map_congr_left fun t member => table_settled (each t member), List.map_id']
  exact congrArg (fun tables => { db with tables }) (Catalog.ext entries)

theorem of_database_settled (db : SchemaCompiler.Database) :
    (ofDatabase db).settled = ofDatabase db := by
  apply database_settled
  rw [of_database_entries]
  intro t member
  obtain ⟨table, _, rfl⟩ := List.mem_map.mp member
  rw [of_table_entries]
  intro f among
  obtain ⟨field, _, rfl⟩ := List.mem_map.mp among
  exact of_field_settled field

theorem settled_flag_again (flag : Json) : settledFlag (settledFlag flag) = settledFlag flag := by
  cases flag <;> rfl

theorem field_settled_again (f : Field) : f.settled.settled = f.settled := by
  simp [Field.settled, settled_flag_again]

theorem database_settled_again (db : Database) : db.settled.settled = db.settled := by
  apply database_settled
  rw [database_settled_entries]
  intro t member
  obtain ⟨table, _, rfl⟩ := List.mem_map.mp member
  rw [table_settled_entries]
  intro f among
  obtain ⟨field, _, rfl⟩ := List.mem_map.mp among
  exact field_settled_again field

end Stored

end SchemaCompiler
