/-!
Entries in the order in which they were added, at most one for each title.
-/

namespace SchemaCompiler

class Titled (α : Type) (κ : outParam Type) where
  title : α → κ

structure Catalog (α : Type) {κ : Type} [Titled α κ] where
  entries : List α
  distinct : (entries.map Titled.title).Nodup

namespace Catalog

variable {α κ : Type} [Titled α κ]

open Titled

theorem ext {a b : Catalog α} (h : a.entries = b.entries) : a = b := by
  cases a; cases b; cases h; rfl

instance [DecidableEq α] : DecidableEq (Catalog α) := fun a b =>
  if h : a.entries = b.entries then isTrue (ext h)
  else isFalse fun same => h (congrArg entries same)

def empty : Catalog α := ⟨[], List.nodup_nil⟩

instance : Inhabited (Catalog α) := ⟨empty⟩

def size (c : Catalog α) : Nat := c.entries.length

def titles (c : Catalog α) : List κ := c.entries.map title

variable [DecidableEq κ]

def find? (c : Catalog α) (name : κ) : Option α :=
  c.entries.find? (title · == name)

def contains (c : Catalog α) (name : κ) : Bool := c.titles.contains name

def modifyEntries (name : κ) (change : α → α) (entries : List α) : List α :=
  entries.map fun entry => if title entry == name then change entry else entry

theorem map_title_modifyEntries (name : κ) (change : α → α) (entries : List α)
    (keeps : ∀ entry, title entry = name → title (change entry) = name) :
    (modifyEntries name change entries).map title = entries.map title := by
  simp only [modifyEntries, List.map_map]
  apply List.map_congr_left
  intro entry _
  by_cases h : title entry = name
  · simp [h, keeps entry h]
  · simp [h]

def modify (c : Catalog α) (name : κ) (change : α → α)
    (keeps : ∀ entry, title entry = name → title (change entry) = name) : Catalog α :=
  ⟨modifyEntries name change c.entries, by
    rw [map_title_modifyEntries name change c.entries keeps]; exact c.distinct⟩

/-- Replaces the entry of the same title where it stands, or adds a new one at the end. -/
def put (c : Catalog α) (entry : α) : Catalog α :=
  if h : title entry ∈ c.entries.map title then
    c.modify (title entry) (fun _ => entry) fun _ _ => rfl
  else
    ⟨c.entries ++ [entry], by
      rw [List.map_append, List.map_singleton]
      refine List.nodup_append.2 ⟨c.distinct, by simp, ?_⟩
      intro a ha b hb
      rw [List.mem_singleton] at hb
      intro same
      exact h (hb ▸ same ▸ ha)⟩

/-- Adds an entry at the end; an entry of the same title leaves its place. -/
def putLast (c : Catalog α) (entry : α) : Catalog α :=
  ⟨c.entries.filter (title · != title entry) ++ [entry], by
    rw [List.map_append, List.map_singleton]
    refine List.nodup_append.2
      ⟨(List.filter_sublist.map title).nodup c.distinct, by simp, ?_⟩
    intro a ha b hb
    rw [List.mem_singleton] at hb
    obtain ⟨other, hother, rfl⟩ := List.mem_map.1 ha
    have := (List.mem_filter.1 hother).2
    intro same
    rw [hb] at same
    simp [same] at this⟩

def ofList (entries : List α) : Catalog α := entries.foldl put empty

end Catalog

end SchemaCompiler
