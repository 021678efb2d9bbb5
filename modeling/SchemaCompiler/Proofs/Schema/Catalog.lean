import SchemaCompiler.Schema.Catalog
import SchemaCompiler.Schema.Scalar

/-!
Catalogs and label sets rebuilt from their entries. Adding the entries one by one, in either way
of adding, gives the catalog back with its order.
-/

namespace SchemaCompiler

namespace Catalog

open Titled

variable {α κ : Type} [Titled α κ]

theorem fresh_of_distinct {before after : List α} {entry : α}
    (distinct : ((before ++ entry :: after).map title).Nodup) :
    title entry ∉ before.map title := by
  intro member
  rw [List.map_append, List.nodup_append] at distinct
  exact distinct.2.2 _ member _ (by simp) rfl

/-- Either way of adding appends the entries whose titles are new. -/
theorem foldl_entries (add : Catalog α → α → Catalog α)
    (append : ∀ c entry, title entry ∉ c.entries.map title →
      (add c entry).entries = c.entries ++ [entry])
    (c : Catalog α) (more : List α) (distinct : ((c.entries ++ more).map title).Nodup) :
    (more.foldl add c).entries = c.entries ++ more := by
  induction more generalizing c with
  | nil => simp
  | cons entry rest ih =>
      have added := append c entry (fresh_of_distinct distinct)
      have tail := ih (add c entry) (by simpa [added] using distinct)
      simpa [added] using tail

/-- What is found after adding entries, in either way, was there or is one of them. -/
theorem mem_foldl {add : Catalog α → α → Catalog α}
    (mem_add : ∀ {c entry other}, other ∈ (add c entry).entries → other = entry ∨ other ∈ c.entries)
    {c : Catalog α} {more : List α} {other : α} (member : other ∈ (more.foldl add c).entries) :
    other ∈ more ∨ other ∈ c.entries := by
  induction more generalizing c with
  | nil => exact Or.inr member
  | cons entry rest ih =>
      rcases ih member with later | early
      · exact Or.inl (List.mem_cons_of_mem entry later)
      · rcases mem_add early with rfl | old
        · exact Or.inl (by simp)
        · exact Or.inr old

/-- A change that tells titles apart as before makes no two entries alike. -/
theorem map_distinct {β lambda : Type} [Titled β lambda] (c : Catalog α) {change : α → β}
    (apart : ∀ a b, title (change a) = title (change b) → title a = title b) :
    ((c.entries.map change).map title).Nodup := by
  rw [List.map_map, List.Nodup, List.pairwise_map]
  exact (List.pairwise_map.mp c.distinct).imp fun differ same => differ (apart _ _ same)

variable [DecidableEq κ]

theorem put_new (c : Catalog α) (entry : α) (fresh : title entry ∉ c.entries.map title) :
    (c.put entry).entries = c.entries ++ [entry] := by
  simp [put, fresh]

theorem put_last_new (c : Catalog α) (entry : α) (fresh : title entry ∉ c.entries.map title) :
    (c.putLast entry).entries = c.entries ++ [entry] := by
  have kept : c.entries.filter (title · != title entry) = c.entries := by
    apply List.filter_eq_self.mpr
    intro other member
    have apart : title other ≠ title entry := by
      intro same
      exact fresh (List.mem_map.mpr ⟨other, member, same⟩)
    simp [apart]
  simp [putLast, kept]

theorem of_list_distinct {entries : List α} (distinct : (entries.map title).Nodup) :
    (ofList entries).entries = entries :=
  foldl_entries put put_new empty entries distinct

theorem foldl_put_last_distinct {entries : List α} (distinct : (entries.map title).Nodup) :
    (entries.foldl putLast empty).entries = entries :=
  foldl_entries putLast put_last_new empty entries distinct

/-- Entries added at the end stand behind the old ones whose titles they do not take. -/
theorem foldl_put_last (c : Catalog α) (more : List α) (distinct : (more.map title).Nodup) :
    (more.foldl putLast c).entries =
      c.entries.filter (fun old => !(more.map title).contains (title old)) ++ more := by
  induction more generalizing c with
  | nil => simp [List.filter_eq_self.mpr]
  | cons entry rest ih =>
      obtain ⟨fresh, others⟩ := List.nodup_cons.mp distinct
      have kept : [entry].filter (fun old => !(rest.map title).contains (title old)) = [entry] := by
        simpa using fresh
      rw [List.foldl_cons, ih _ others, putLast, List.filter_append, kept, List.filter_filter,
        List.append_assoc, List.singleton_append]
      congr 1
      apply List.filter_congr
      intro old _
      rw [List.map_cons, List.contains_cons, Bool.not_or, Bool.and_comm]
      rfl

theorem put_last_entries (c : Catalog α) (entry : α) :
    (c.putLast entry).entries = c.entries.filter (title · != title entry) ++ [entry] := rfl

/-- The titles after an addition are the new one and the old ones. -/
theorem put_last_titles (c : Catalog α) (entry : α) (name : κ) :
    ((c.putLast entry).entries.map title).contains name =
      (name == title entry || (c.entries.map title).contains name) := by
  rw [Bool.eq_iff_iff, Bool.or_eq_true, beq_iff_eq, List.contains_iff_mem, List.contains_iff_mem]
  constructor
  · intro member
    obtain ⟨other, among, rfl⟩ := List.mem_map.mp member
    rcases List.mem_append.mp among with old | new
    · exact Or.inr (List.mem_map_of_mem (List.mem_filter.mp old).1)
    · exact Or.inl (congrArg title (List.mem_singleton.mp new))
  · rintro (rfl | old)
    · exact List.mem_map_of_mem (by simp [put_last_entries])
    · obtain ⟨other, among, rfl⟩ := List.mem_map.mp old
      by_cases same : title other = title entry
      · rw [same]
        exact List.mem_map_of_mem (by simp [put_last_entries])
      · exact List.mem_map_of_mem (by simp [put_last_entries, among, same])

/-- Entries that were added to one catalog may be added to another one, together with one more. -/
theorem foldl_put_last_more (c d : Catalog α) (entry : α) :
    (d.putLast entry).entries.foldl putLast c = (d.entries.foldl putLast c).putLast entry := by
  apply ext
  rw [foldl_put_last c _ (d.putLast entry).distinct, put_last_entries, put_last_entries,
    foldl_put_last c _ d.distinct, List.filter_append, List.filter_filter, ← List.append_assoc]
  congr 2
  apply List.filter_congr
  intro old _
  rw [← put_last_entries, put_last_titles, Bool.not_or]
  rfl

/-! What is found after a change -/

theorem find_entry {c : Catalog α} {entry : α} (member : entry ∈ c.entries) :
    c.find? (title entry) = some entry := by
  obtain ⟨entries, distinct⟩ := c
  simp only [find?] at member ⊢
  induction entries with
  | nil => cases member
  | cons first rest ih =>
      rcases List.mem_cons.mp member with same | later
      · simp [same]
      · rw [List.map_cons, List.nodup_cons] at distinct
        have apart : title first ≠ title entry := by
          intro same
          exact distinct.1 (same ▸ List.mem_map_of_mem later)
        have tail := ih distinct.2 later
        simp [apart, tail]

/-- A change meets the one entry of its title. -/
theorem modify_at {c : Catalog α} {front back : List α} {entry : α}
    (shape : c.entries = front ++ entry :: back) (change : α → α)
    (keeps : ∀ other, title other = title entry → title (change other) = title entry) :
    (c.modify (title entry) change keeps).entries = front ++ change entry :: back := by
  have distinct := c.distinct
  rw [shape, List.map_append, List.nodup_append, List.map_cons, List.nodup_cons] at distinct
  have kept (others : List α) (absent : title entry ∉ others.map title) :
      modifyEntries (title entry) change others = others := by
    refine (List.map_congr_left fun other member => ?_).trans (List.map_id others)
    have apart : title other ≠ title entry := by
      intro same
      exact absent (same ▸ List.mem_map_of_mem member)
    simp [apart]
  have before : title entry ∉ front.map title := fun member =>
    distinct.2.2 _ member _ (by simp) rfl
  have parts : modifyEntries (title entry) change (front ++ entry :: back) =
      modifyEntries (title entry) change front ++
        change entry :: modifyEntries (title entry) change back := by
    simp [modifyEntries]
  simp only [modify, shape, parts, kept front before, kept back distinct.2.1.1]

theorem put_last_at {c : Catalog α} {front : List α} {last entry : α}
    (shape : c.entries = front ++ [last]) (same : title last = title entry) :
    (c.put entry).entries = front ++ [entry] := by
  have known : title entry ∈ c.entries.map title := by simp [shape, same]
  rw [put, dif_pos known]
  have changed := modify_at shape (fun _ => entry) (fun _ _ => same.symm)
  simpa [modify, modifyEntries, same] using changed

/-- An entry that is there takes its own place. -/
theorem put_found {c : Catalog α} {name : κ} {entry : α} (found : c.find? name = some entry) :
    c.put entry = c := by
  have member : entry ∈ c.entries := List.mem_of_find?_eq_some found
  have known : title entry ∈ c.entries.map title := List.mem_map_of_mem member
  apply ext
  rw [put, dif_pos known]
  refine (List.map_congr_left fun other among => ?_).trans (List.map_id c.entries)
  by_cases same : title other = title entry
  · have first := find_entry among
    rw [same, find_entry member, Option.some.injEq] at first
    simp [first]
  · simp [same]

theorem mem_modify {c : Catalog α} {name : κ} {change : α → α} {entry : α}
    (keeps : ∀ entry, title entry = name → title (change entry) = name)
    (member : entry ∈ (c.modify name change keeps).entries) :
    entry ∈ c.entries ∨ ∃ old ∈ c.entries, entry = change old := by
  simp only [modify, modifyEntries] at member
  obtain ⟨old, among, same⟩ := List.mem_map.mp member
  split at same
  · exact Or.inr ⟨old, among, same.symm⟩
  · exact Or.inl (same ▸ among)

theorem mem_put {c : Catalog α} {entry other : α} (member : other ∈ (c.put entry).entries) :
    other = entry ∨ other ∈ c.entries := by
  rw [put] at member
  split at member
  · rcases mem_modify _ member with old | ⟨_, _, same⟩
    · exact Or.inr old
    · exact Or.inl same
  · rcases List.mem_append.mp member with old | new
    · exact Or.inr old
    · exact Or.inl (List.mem_singleton.mp new)

theorem mem_put_last {c : Catalog α} {entry other : α}
    (member : other ∈ (c.putLast entry).entries) : other = entry ∨ other ∈ c.entries := by
  rcases List.mem_append.mp member with old | new
  · exact Or.inr (List.mem_filter.mp old).1
  · exact Or.inl (List.mem_singleton.mp new)

theorem mem_of_list {entries : List α} {other : α} (member : other ∈ (ofList entries).entries) :
    other ∈ entries := by
  rcases mem_foldl mem_put member with among | none
  · exact among
  · cases none

theorem last_put_last (c : Catalog α) (entry : α) :
    (c.putLast entry).entries.getLast? = some entry := by
  simp [putLast]

/-- An entry that replaces the last one is the last one. -/
theorem last_put {c : Catalog α} {entry last : α} (final : c.entries.getLast? = some last)
    (same : title last = title entry) : (c.put entry).entries.getLast? = some entry := by
  have known : title entry ∈ c.entries.map title := by
    rw [← same]
    exact List.mem_map_of_mem (List.mem_of_getLast? final)
  rw [put, dif_pos known]
  simp [modify, modifyEntries, final, same]

end Catalog

section OrderedBy

variable {α κ : Type} [LT κ] [DecidableLT κ] [DecidableEq κ]

theorem insert_by_least {key : α → κ} {new : α} {members : List α}
    (below : ∀ other ∈ members, key new < key other) :
    insertBy key new members = new :: members := by
  cases members with
  | nil => rfl
  | cons first rest => simp [insertBy, below first (by simp)]

theorem foldr_insert_by (key : α → κ) {members : List α}
    (increasing : members.Pairwise fun a b => key a < key b) :
    members.foldr (insertBy key) [] = members := by
  induction members with
  | nil => rfl
  | cons first rest ih =>
      obtain ⟨below, sorted⟩ := List.pairwise_cons.mp increasing
      rw [List.foldr_cons, ih sorted, insert_by_least below]

end OrderedBy

namespace LabelSet

theorem mem_of_list {label : String} {labels : List String} :
    label ∈ (ofList labels).toList ↔ label ∈ labels := by
  induction labels with
  | nil => simp [ofList, empty]
  | cons first rest ih =>
      simp only [ofList] at ih
      simp only [ofList, List.foldr_cons, mem_insert, ih, List.mem_cons]

theorem to_list_of_list (labels : List String) :
    (ofList labels).toList = labels.foldr (insertBy id) [] := by
  induction labels with
  | nil => rfl
  | cons first rest ih => exact congrArg (insertBy id first) ih

theorem of_list_to_list (s : LabelSet) : ofList s.toList = s := by
  apply ext
  rw [to_list_of_list, foldr_insert_by id s.increasing]

end LabelSet

namespace ScalarSet

theorem to_list_of_list (scalars : List Scalar) :
    (ofList scalars).toList = scalars.foldr (insertBy Scalar.key) [] := by
  induction scalars with
  | nil => rfl
  | cons first rest ih => exact congrArg (insertBy Scalar.key first) ih

theorem of_list_to_list (s : ScalarSet) : ofList s.toList = s := by
  apply ext
  rw [to_list_of_list, foldr_insert_by Scalar.key s.increasing]

end ScalarSet

end SchemaCompiler
