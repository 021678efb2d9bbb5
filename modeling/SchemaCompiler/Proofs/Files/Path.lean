import SchemaCompiler.Proofs.Files.Tree
import SchemaCompiler.Proofs.Text.Cutting

/-!
Names within a folder. A text without a slash is one name, and leads to a place right below the
folder that it is looked up in.
-/

namespace SchemaCompiler.Files

open Text

/-- No slash stands in the text, nor a zero character. -/
def IsFileName (text : String) : Prop := '/' ∉ text.toList ∧ '\x00' ∉ text.toList

instance (text : String) : Decidable (IsFileName text) :=
  inferInstanceAs (Decidable ('/' ∉ text.toList ∧ '\x00' ∉ text.toList))

namespace Path

/-- A path to something in a folder. -/
def child (folder : Path) (name : String) : Path :=
  { folder with parts := folder.parts ++ [name] }

theorem destination_child {name : String} (plain : name ≠ "..") (start : Location)
    (folder : Path) :
    (folder.child name).destination start = folder.destination start ++ [name] := by
  have last (place : Location) : Location.step place name = place ++ [name] := by
    simp [Location.step, plain]
  rw [destination, child, List.foldl_append, List.foldl_cons, List.foldl_nil, last]
  rfl

/-- A path within another starts where that one leads. -/
theorem destination_join (start : Location) (folder p : Path) :
    (folder.join p).destination start = p.destination (folder.destination start) := by
  rw [join]
  split
  · next relative => simp [destination, relative]
  · next anchored =>
    have rooted : p.anchor ≠ .relative := anchored
    simp [destination, rooted]

theorem anchor_of_plain {text : List Char} (plain : '/' ∉ text) : anchorOf text = .relative := by
  have none : text.takeWhile (· == '/') = [] := by
    cases text with
    | nil => rfl
    | cons c rest =>
        have apart : c ≠ '/' := fun same => plain (by simp [same])
        simp [apart]
  rw [anchorOf, none]
  rfl

/-- A text without a slash is one name, unless it says nothing. -/
theorem of_string_name {name : String} (plain : '/' ∉ name.toList) (present : name ≠ "")
    (apart : name ≠ ".") : ofString name = ⟨.relative, [name]⟩ := by
  have solid : ∀ c ∈ name.toList, (c == '/') = false := by
    intro c member
    rw [beq_eq_false_iff_ne]
    rintro rfl
    exact plain member
  have one : runsOutside (· == '/') [] name.toList = [name.toList] := by
    refine runs_outside_whole solid ?_
    simpa using present
  rw [ofString, anchor_of_plain plain, one]
  simp [apart]

/-- A path of a text that ends in more than dots has this ending in its last name. -/
theorem of_string_ending (text ending : String) (plain : '/' ∉ ending.toList)
    (long : 2 < ending.length) :
    ∃ name, (ofString (text ++ ending)).parts = (ofString (text ++ ending)).parent.parts ++ [name] ∧
      name ≠ ".." := by
  have solid : ∀ c ∈ ending.toList, (c == '/') = false := by
    intro c member
    rw [beq_eq_false_iff_ne]
    rintro rfl
    exact plain member
  have present : ending.toList ≠ [] := by
    intro empty
    rw [← String.length_toList, empty] at long
    cases long
  obtain ⟨runs, front, cut⟩ := runs_outside_ending solid present [] text.toList
  have apart (short : String) (brief : short.length ≤ 2) :
      String.ofList front ++ ending ≠ short := by
    rintro rfl
    rw [String.length_append] at brief
    omega
  have parts : (ofString (text ++ ending)).parts =
      (runs.map String.ofList).filter (· != ".") ++ [String.ofList front ++ ending] := by
    rw [ofString, String.toList_append, cut]
    simp [apart "." (by decide)]
  refine ⟨_, ?_, apart ".." (by decide)⟩
  rw [parent, parts, List.dropLast_concat]

end Path

/-! Paths that stay in their folder -/

/-- Something lies right in a folder. -/
def LiesIn (folder location : Location) : Prop := ∃ name, location = folder ++ [name]

/-- From a depth below some folder, the steps lead back to this folder, and never above it. -/
def Returns : Nat → List String → Prop
  | depth, [] => depth = 0
  | depth, name :: rest =>
    if name = ".." then 0 < depth ∧ Returns (depth - 1) rest else Returns (depth + 1) rest

instance decidableReturns : (depth : Nat) → (names : List String) → Decidable (Returns depth names)
  | depth, [] => inferInstanceAs (Decidable (depth = 0))
  | depth, name :: rest =>
    let _ := decidableReturns (depth - 1) rest
    let _ := decidableReturns (depth + 1) rest
    inferInstanceAs (Decidable
      (if name = ".." then 0 < depth ∧ Returns (depth - 1) rest else Returns (depth + 1) rest))

/-- Before its last name the path leads back to where it starts, and never above it. -/
def IsLevel (p : Path) : Prop := p.anchor = .relative ∧ Returns 0 p.parent.parts

instance (p : Path) : Decidable (IsLevel p) :=
  inferInstanceAs (Decidable (p.anchor = .relative ∧ Returns 0 p.parent.parts))

theorem step_up (place : Location) : Location.step place ".." = place.dropLast := rfl

theorem step_down {name : String} (down : name ≠ "..") (place : Location) :
    Location.step place name = place ++ [name] := by
  simp [Location.step, down]

theorem foldl_step_of_returns {names : List String} {below : Location}
    (returns : Returns below.length names) (place : Location) :
    names.foldl Location.step (place ++ below) = place := by
  induction names generalizing below with
  | nil =>
      obtain rfl := List.eq_nil_of_length_eq_zero returns
      exact List.append_nil place
  | cons name rest ih =>
      rw [Returns] at returns
      rw [List.foldl_cons]
      split at returns
      · next up =>
        obtain ⟨deep, higher⟩ := returns
        have present : below ≠ [] := List.ne_nil_of_length_pos deep
        rw [up, step_up, List.dropLast_append_of_ne_nil present]
        exact ih (by rwa [List.length_dropLast])
      · next down =>
        rw [step_down down, List.append_assoc]
        exact ih (by rwa [List.length_append])

/-- A name that is lost is found again only where the steps name it. -/
theorem mem_foldl_step {names : List String} {place : Location} {name : String}
    (found : name ∈ names.foldl Location.step place) : name ∈ place ∨ name ∈ names := by
  induction names generalizing place with
  | nil => exact Or.inl found
  | cons first rest ih =>
      rcases ih found with stepped | later
      · by_cases up : first = ".."
        · subst up
          exact Or.inl (List.dropLast_subset _ stepped)
        · rw [step_down up] at stepped
          rcases List.mem_append.mp stepped with held | same
          · exact Or.inl held
          · exact Or.inr (List.mem_singleton.mp same ▸ List.mem_cons_self)
      · exact Or.inr (List.mem_cons_of_mem first later)

theorem returns_of_foldl_step {names : List String} {folder : String} (fresh : folder ∉ names)
    {below : Location} (back : names.foldl Location.step (folder :: below) = [folder]) :
    Returns below.length names := by
  induction names generalizing below with
  | nil =>
      obtain rfl : below = [] := by simpa using back
      rfl
  | cons name rest ih =>
      have later : folder ∉ rest := fun member => fresh (List.mem_cons_of_mem name member)
      rw [List.foldl_cons] at back
      rw [Returns]
      split
      · next up =>
        rw [up, step_up] at back
        cases below with
        | nil =>
            -- The folder is left here, and no later step names it.
            have found : folder ∈ rest.foldl Location.step [] := by
              rw [show ([] : Location) = [folder].dropLast from rfl, back]
              exact List.mem_singleton_self folder
            rcases mem_foldl_step found with held | named
            · cases held
            · exact absurd named later
        | cons first others =>
            have higher := ih later back
            rw [List.length_dropLast] at higher
            exact ⟨Nat.succ_pos _, higher⟩
      · next down =>
        rw [step_down down, List.cons_append] at back
        have deeper := ih later back
        rwa [List.length_append] at deeper

theorem fresh_name (names : List String) : ∃ name, name ∉ names := by
  obtain ⟨size, longer⟩ : ∃ size, ∀ name ∈ names, name.length < size := by
    induction names with
    | nil => exact ⟨0, by simp⟩
    | cons first rest ih =>
        obtain ⟨size, longer⟩ := ih
        refine ⟨first.length + 1 + size, List.forall_mem_cons.mpr ⟨by omega, ?_⟩⟩
        intro name member
        have short := longer name member
        omega
  refine ⟨String.ofList (List.replicate size 'x'), ?_⟩
  intro member
  have short := longer _ member
  rw [String.length_ofList, List.length_replicate] at short
  exact absurd short (Nat.lt_irrefl size)

/-- A path is level if and only if it leads right into every folder in which it starts. -/
theorem is_level_iff {p : Path} {name : String} (last : p.parts = p.parent.parts ++ [name])
    (plain : name ≠ "..") : IsLevel p ↔ ∀ folder, LiesIn folder (p.destination folder) := by
  have inside (folder : Location) : LiesIn folder (p.destination folder) ↔
      p.parent.parts.foldl Location.step
        (if p.anchor = .relative then folder else []) = folder := by
    rw [Path.destination, last, List.foldl_append, List.foldl_cons, List.foldl_nil,
      step_down plain, LiesIn]
    constructor
    · rintro ⟨other, same⟩
      exact (List.append_inj' same rfl).1
    · intro same
      exact ⟨name, by rw [same]⟩
  simp only [inside, IsLevel]
  by_cases relative : p.anchor = .relative
  · simp only [relative, if_true, true_and]
    constructor
    · intro returns folder
      have level : Returns ([] : Location).length p.parent.parts := returns
      have back := foldl_step_of_returns level folder
      rwa [List.append_nil] at back
    · intro back
      obtain ⟨folder, fresh⟩ := fresh_name p.parent.parts
      exact returns_of_foldl_step fresh (back [folder])
  · simp only [relative, if_false, false_and, false_iff]
    intro back
    -- One place cannot be every folder.
    have places := (back []).symm.trans (back [name])
    cases places

end SchemaCompiler.Files
