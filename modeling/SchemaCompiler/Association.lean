/-!
Association lists: values by key, in the order in which the keys came.
-/

namespace SchemaCompiler.Association

variable {κ α : Type} [BEq κ]

/-- Sets a key: an earlier value is replaced where it stands, a new key goes to the end. -/
def set (key : κ) (value : α) : List (κ × α) → List (κ × α)
  | [] => [(key, value)]
  | (k, v) :: rest => if k == key then (k, value) :: rest else (k, v) :: set key value rest

variable [LawfulBEq κ]

theorem lookup_set_self (key : κ) (value : α) (entries : List (κ × α)) :
    (set key value entries).lookup key = some value := by
  induction entries with
  | nil => simp [set]
  | cons entry rest ih =>
    obtain ⟨k, v⟩ := entry
    by_cases here : k = key
    · simp [set, here]
    · have apart : (key == k) = false := beq_eq_false_iff_ne.2 (Ne.symm here)
      simp [set, here, List.lookup_cons, apart, ih]

theorem lookup_set_of_ne {key other : κ} (apart : other ≠ key) (value : α)
    (entries : List (κ × α)) :
    (set key value entries).lookup other = entries.lookup other := by
  have unequal : (other == key) = false := beq_eq_false_iff_ne.2 apart
  induction entries with
  | nil => simp [set, List.lookup_cons, unequal]
  | cons entry rest ih =>
    obtain ⟨k, v⟩ := entry
    by_cases here : k = key
    · subst here
      simp [set, List.lookup_cons, unequal]
    · simp [set, here, List.lookup_cons, ih]

/-! Keys that are there, and keys that are not -/

theorem lookup_present {key : κ} {entries : List (κ × α)}
    (present : key ∈ entries.map Prod.fst) : ∃ value, entries.lookup key = some value := by
  obtain ⟨entry, member, rfl⟩ := List.mem_map.mp present
  apply Option.isSome_iff_exists.mp
  rw [List.lookup_isSome_iff]
  exact ⟨entry, member, by simp⟩

theorem lookup_absent {key : κ} {entries : List (κ × α)}
    (absent : key ∉ entries.map Prod.fst) : entries.lookup key = none := by
  rw [List.lookup_eq_none_iff]
  intro entry member
  rw [bne_iff_ne]
  rintro rfl
  exact absent (List.mem_map_of_mem member)

theorem set_absent {key : κ} (value : α) {entries : List (κ × α)}
    (absent : key ∉ entries.map Prod.fst) : set key value entries = entries ++ [(key, value)] := by
  induction entries with
  | nil => rfl
  | cons entry rest ih =>
    obtain ⟨other, old⟩ := entry
    simp only [List.map_cons, List.mem_cons, not_or] at absent
    have apart : (other == key) = false := beq_false_of_ne (Ne.symm absent.1)
    simp [set, apart, ih absent.2]

theorem set_present {key : κ} {value : α} {entries : List (κ × α)}
    (present : entries.lookup key = some value) : set key value entries = entries := by
  induction entries with
  | nil => cases present
  | cons entry rest ih =>
    obtain ⟨other, old⟩ := entry
    rw [List.lookup_cons] at present
    by_cases here : other = key
    · subst here
      have same : old = value := by simpa using present
      simp [set, same]
    · have apart : (key == other) = false := beq_eq_false_iff_ne.2 (Ne.symm here)
      rw [apart] at present
      simp [set, here, ih present]

theorem lookup_of_distinct {entries : List (κ × α)} (distinct : (entries.map Prod.fst).Nodup)
    {key : κ} {value : α} (member : (key, value) ∈ entries) :
    entries.lookup key = some value := by
  obtain ⟨front, back, rfl⟩ := List.append_of_mem member
  rw [List.map_append, List.nodup_append] at distinct
  have fresh : key ∉ front.map Prod.fst := fun among => distinct.2.2 key among key (by simp) rfl
  rw [List.lookup_append, lookup_absent fresh]
  simp

end SchemaCompiler.Association
