/-!
Finite sets, held in the order of a key by which their members are told apart. Labels are their
own keys, in code point order.
-/

namespace SchemaCompiler

section OrderedBy

variable {α κ : Type} [LT κ] [DecidableLT κ] [DecidableEq κ]

/-- Inserts a member at its place, or puts it in the place of the one that has its key. -/
def insertBy (key : α → κ) (new : α) : List α → List α
  | [] => [new]
  | first :: rest =>
    if key new < key first then new :: first :: rest
    else if key new = key first then new :: rest
    else first :: insertBy key new rest

theorem mem_of_mem_insertBy {key : α → κ} {new other : α} {members : List α}
    (member : other ∈ insertBy key new members) : other = new ∨ other ∈ members := by
  induction members with
  | nil => exact Or.inl (List.mem_singleton.1 member)
  | cons first rest ih =>
    rw [insertBy] at member
    split at member
    · exact List.mem_cons.1 member
    · split at member
      · rcases List.mem_cons.1 member with here | there
        · exact Or.inl here
        · exact Or.inr (List.mem_cons_of_mem first there)
      · rcases List.mem_cons.1 member with rfl | there
        · exact Or.inr List.mem_cons_self
        · exact (ih there).imp_right (List.mem_cons_of_mem first)

variable [LE κ] [Std.LawfulOrderLT κ] [Std.IsLinearOrder κ]

theorem pairwise_insertBy {key : α → κ} {new : α} {members : List α}
    (sorted : members.Pairwise fun a b => key a < key b) :
    (insertBy key new members).Pairwise fun a b => key a < key b := by
  induction members with
  | nil => simp [insertBy]
  | cons first rest ih =>
    have ⟨below, tail⟩ := List.pairwise_cons.1 sorted
    rw [insertBy]
    split
    · next before =>
      refine List.pairwise_cons.2 ⟨?_, sorted⟩
      intro other member
      rcases List.mem_cons.1 member with rfl | member
      · exact before
      · exact Std.lt_trans before (below other member)
    · next notBefore =>
      split
      · next same =>
        exact List.pairwise_cons.2 ⟨fun other member => same ▸ below other member, tail⟩
      · next different =>
        refine List.pairwise_cons.2 ⟨?_, ih tail⟩
        intro other member
        rcases mem_of_mem_insertBy member with rfl | member
        · exact Std.lt_of_le_of_ne (Std.not_lt.1 notBefore) (Ne.symm different)
        · exact below other member

end OrderedBy

structure LabelSet where
  toList : List String
  increasing : toList.Pairwise (· < ·)

namespace LabelSet

theorem ext {a b : LabelSet} (h : a.toList = b.toList) : a = b := by
  cases a; cases b; cases h; rfl

instance : DecidableEq LabelSet := fun a b =>
  if h : a.toList = b.toList then isTrue (ext h)
  else isFalse fun same => h (congrArg toList same)

def contains (s : LabelSet) (label : String) : Bool := s.toList.contains label

def insert (label : String) (s : LabelSet) : LabelSet :=
  ⟨insertBy id label s.toList, pairwise_insertBy s.increasing⟩

theorem mem_insert {label other : String} {s : LabelSet} :
    other ∈ (s.insert label).toList ↔ other = label ∨ other ∈ s.toList := by
  refine ⟨mem_of_mem_insertBy, ?_⟩
  change _ → other ∈ insertBy id label s.toList
  induction s.toList with
  | nil => simp [insertBy]
  | cons first rest ih =>
    rw [insertBy]
    split
    · simp
    · split
      · next same => rintro (rfl | member) <;> simp_all
      · intro member
        rw [List.mem_cons] at member ⊢
        exact (or_left_comm.1 member).imp_right ih

def empty : LabelSet := ⟨[], .nil⟩

def ofList (labels : List String) : LabelSet := labels.foldr insert empty

end LabelSet

end SchemaCompiler
