import Mathlib.Data.List.Forall2
import SchemaCompiler.Proofs.Ddl.NameParts
import SchemaCompiler.Proofs.Text.Capitals

/-!
Names in backticks. A line that opens a table names it by characters behind a backtick, so lines
that differ in the case of their letters, but not there, name the same table. Backticks are not
paired from the start of the line: the reader looks for a word that begins with one, so a name is
opened there, or behind a dot that joins it to another name, and a blank ends what it could be.
Where no backtick that closes a pair stands so, the names are inside the pairs.
-/

namespace SchemaCompiler.Ddl

open Text

/-! Where a name stands -/

/-- Whether a backtick opens a name, given the characters before it, the last one first: where a
word begins, and behind a dot that stands behind a backtick. -/
def opensName : List Char → Bool
  | [] => true
  | '.' :: '\x60' :: _ => true
  | c :: _ => isBlank c

/-- Whether the last backtick before a place opens a name that no blank has ended. -/
def behindOpening : List Char → Bool
  | [] => false
  | c :: before => if c == '\x60' then opensName before else !isBlank c && behindOpening before

/-- Whether a backtick stands behind a place, with no blank in between. -/
def beforeClosing : List Char → Bool
  | [] => false
  | c :: rest => c == '\x60' || (!isBlank c && beforeClosing rest)

def insideBackticks (line : List Char) (place : Nat) : Bool :=
  behindOpening (line.take place).reverse && beforeClosing (line.drop place)

/-- The characters of the text inside backticks stand in the other text as well. -/
def SameNames (text other : List Char) : Prop :=
  ∀ place, insideBackticks text place = true → text[place]? = other[place]?

theorem before_closing_append {front : List Char} (closing : beforeClosing front = true)
    (back : List Char) : beforeClosing (front ++ back) = true := by
  induction front with
  | nil => cases closing
  | cons c rest ih =>
      rw [beforeClosing, Bool.or_eq_true, Bool.and_eq_true] at closing
      rw [List.cons_append, beforeClosing, Bool.or_eq_true, Bool.and_eq_true]
      exact closing.imp_right fun inner => ⟨inner.1, ih inner.2⟩

theorem opens_name_blank {c : Char} (blank : isBlank c = true) (before : List Char) :
    opensName (c :: before) = true := by
  rw [opensName.eq_def]
  split
  · rfl
  · rfl
  · next shape =>
    cases shape
    exact blank

theorem opens_name_append {near : List Char} (opens : opensName near = true) {far : List Char}
    (start : opensName far = true) : opensName (near ++ far) = true := by
  rw [opensName.eq_def] at opens
  split at opens
  · exact start
  · rfl
  · exact opens_name_blank opens _

theorem behind_opening_append {near : List Char} (inside : behindOpening near = true)
    {far : List Char} (start : opensName far = true) : behindOpening (near ++ far) = true := by
  induction near with
  | nil => cases inside
  | cons c before ih =>
      rw [behindOpening] at inside
      rw [List.cons_append, behindOpening]
      split at inside
      · next tick => rw [if_pos tick, opens_name_append inside start]
      · next other =>
        rw [Bool.and_eq_true] at inside
        rw [if_neg other, inside.1, ih inside.2]
        rfl

theorem inside_lt {line : List Char} {place : Nat} (inside : insideBackticks line place = true) :
    place < line.length := by
  refine Nat.lt_of_not_le fun beyond => ?_
  rw [insideBackticks, List.drop_eq_nil_of_le beyond, beforeClosing, Bool.and_false] at inside
  cases inside

instance (text other : List Char) : Decidable (SameNames text other) :=
  decidable_of_iff
    (∀ place < text.length, insideBackticks text place = true → text[place]? = other[place]?)
    ⟨fun each place inside => each place (inside_lt inside) inside,
      fun same place _ inside => same place inside⟩

/-! Pairs of backticks -/

/-- Whether a place is inside backticks, which are paired as they stand in the line. -/
def insidePair (line : List Char) (place : Nat) : Bool :=
  (line.take place).count '\x60' % 2 == 1 && (line.drop place).contains '\x60'

/-- The characters of the line inside backticks stand in the other line as well. -/
def SamePaired (text other : List Char) : Prop :=
  ∀ place, insidePair text place = true → text[place]? = other[place]?

/-- No backtick that closes a pair stands where the reader takes it for the first of a name. -/
def OpensPairs (text : List Char) : Prop :=
  ∀ place, text[place]? = some '\x60' → opensName (text.take place).reverse = true →
    (text.take place).count '\x60' % 2 = 0

theorem inside_pair_lt {line : List Char} {place : Nat} (inside : insidePair line place = true) :
    place < line.length := by
  refine Nat.lt_of_not_le fun beyond => ?_
  rw [insidePair, List.drop_eq_nil_of_le beyond, List.contains_nil, Bool.and_false] at inside
  cases inside

instance (text other : List Char) : Decidable (SamePaired text other) :=
  decidable_of_iff
    (∀ place < text.length, insidePair text place = true → text[place]? = other[place]?)
    ⟨fun each place inside => each place (inside_pair_lt inside) inside,
      fun same place _ inside => same place inside⟩

instance (text : List Char) : Decidable (OpensPairs text) :=
  decidable_of_iff
    (∀ place < text.length, text[place]? = some '\x60' →
      opensName (text.take place).reverse = true → (text.take place).count '\x60' % 2 = 0)
    ⟨fun each place tick => each place (List.getElem?_eq_some_iff.mp tick).1 tick,
      fun pairs place _ => pairs place⟩

theorem behind_opening_split {before : List Char} (behind : behindOpening before = true) :
    ∃ run front, before = run ++ '\x60' :: front ∧ '\x60' ∉ run ∧ opensName front = true := by
  induction before with
  | nil => cases behind
  | cons c rest ih =>
      rw [behindOpening] at behind
      split at behind
      · next tick => exact ⟨[], rest, by rw [eq_of_beq tick]; rfl, by simp, behind⟩
      · next other =>
        obtain ⟨run, front, rfl, plain, opens⟩ := ih ((Bool.and_eq_true _ _).mp behind).2
        refine ⟨c :: run, front, rfl, ?_, opens⟩
        rw [List.mem_cons, not_or]
        exact ⟨fun same => other (beq_iff_eq.mpr same.symm), plain⟩

theorem before_closing_contains {rest : List Char} (closing : beforeClosing rest = true) :
    rest.contains '\x60' = true := by
  induction rest with
  | nil => cases closing
  | cons c more ih =>
      rw [beforeClosing, Bool.or_eq_true, Bool.and_eq_true] at closing
      rw [List.contains_cons, Bool.or_eq_true]
      exact closing.imp BEq.symm fun inner => ih inner.2

/-- What the reader takes for a name is inside a pair, if names are opened by pairs only. -/
theorem inside_pair_of_name {line : List Char} (pairs : OpensPairs line) {place : Nat}
    (inside : insideBackticks line place = true) : insidePair line place = true := by
  rw [insideBackticks, Bool.and_eq_true] at inside
  obtain ⟨run, front, shape, plain, opens⟩ := behind_opening_split inside.1
  have taken : line.take place = front.reverse ++ '\x60' :: run.reverse := by
    rw [← List.reverse_reverse (line.take place), shape]
    simp
  have whole : line = front.reverse ++ '\x60' :: (run.reverse ++ line.drop place) := by
    rw [← List.cons_append, ← List.append_assoc, ← taken, List.take_append_drop]
  have even := pairs front.length
    (by rw [whole, List.getElem?_append_right (by simp)]; simp)
    (by rw [whole, List.take_append_of_le_length (by simp), List.take_of_length_le (by simp),
      List.reverse_reverse]; exact opens)
  rw [whole, List.take_append_of_le_length (by simp), List.take_of_length_le (by simp)] at even
  have none : run.reverse.count '\x60' = 0 := List.count_eq_zero.mpr (by simpa using plain)
  rw [insidePair, before_closing_contains inside.2, taken, List.count_append, List.count_cons_self,
    none, Bool.and_true, beq_iff_eq]
  omega

theorem same_names_of_paired {line other : List Char} (pairs : OpensPairs line)
    (same : SamePaired line other) : SameNames line other :=
  fun place inside => same place (inside_pair_of_name pairs inside)

/-! Parts of a line -/

variable {front front' back back' : List Char}

theorem same_names_front (length : front.length = front'.length)
    (same : SameNames (front ++ back) (front' ++ back')) : SameNames front front' := by
  intro place inside
  have short := inside_lt inside
  have whole : insideBackticks (front ++ back) place = true := by
    rw [insideBackticks, Bool.and_eq_true] at inside
    rw [insideBackticks, List.take_append_of_le_length (Nat.le_of_lt short),
      List.drop_append_of_le_length (Nat.le_of_lt short), inside.1,
      before_closing_append inside.2]
    rfl
  have found := same place whole
  rw [List.getElem?_append_left short, List.getElem?_append_left (length ▸ short)] at found
  exact found

theorem same_names_back (length : front.length = front'.length)
    (start : opensName front.reverse = true)
    (same : SameNames (front ++ back) (front' ++ back')) : SameNames back back' := by
  intro place inside
  have whole : insideBackticks (front ++ back) (front.length + place) = true := by
    rw [insideBackticks, Bool.and_eq_true] at inside
    rw [insideBackticks, List.take_length_add_append, List.drop_length_add_append,
      List.reverse_append, behind_opening_append inside.1 start, inside.2]
    rfl
  have found := same _ whole
  rw [List.getElem?_append_right (by omega), List.getElem?_append_right (by omega)] at found
  simpa [length] using found

/-! The name of a table -/

theorem behind_opening_run {run : List Char} (plain : '\x60' ∉ run)
    (solid : ∀ c ∈ run, isBlank c = false) {before : List Char} (start : opensName before = true) :
    behindOpening (run ++ '\x60' :: before) = true := by
  induction run with
  | nil => exact start
  | cons c rest ih =>
      have other : ¬ (c == '\x60') = true := by
        rw [beq_iff_eq]
        rintro rfl
        exact plain (by simp)
      have inner := ih (fun member => plain (List.mem_cons_of_mem c member))
        fun d member => solid d (List.mem_cons_of_mem c member)
      rw [List.cons_append, behindOpening, if_neg other, solid c (by simp), inner]
      rfl

theorem before_closing_run {run : List Char} (solid : ∀ c ∈ run, isBlank c = false)
    (rest : List Char) : beforeClosing (run ++ '\x60' :: rest) = true := by
  induction run with
  | nil => rfl
  | cons c more ih =>
      have inner := ih fun d member => solid d (List.mem_cons_of_mem c member)
      rw [List.cons_append, beforeClosing, solid c (by simp), inner]
      simp

/-- A name between backticks is the same in both lines. -/
theorem name_same {name name' behind behind' : List Char} (plain : '\x60' ∉ name)
    (solid : ∀ c ∈ name, isBlank c = false) (start : opensName front.reverse = true)
    (before : front.length = front'.length) (length : name.length = name'.length)
    (same : SameNames (front ++ '\x60' :: (name ++ '\x60' :: behind))
      (front' ++ '\x60' :: (name' ++ '\x60' :: behind'))) : name = name' := by
  apply List.ext_getElem?
  intro i
  rcases Nat.lt_or_ge i name.length with short | long
  · have inside : insideBackticks (front ++ '\x60' :: (name ++ '\x60' :: behind))
        (front.length + (i + 1)) = true := by
      have opening : behindOpening ((name.take i).reverse ++ '\x60' :: front.reverse) = true :=
        behind_opening_run
          (fun member => plain (List.mem_of_mem_take (List.mem_reverse.mp member)))
          (fun c member => solid c (List.mem_of_mem_take (List.mem_reverse.mp member))) start
      have closing : beforeClosing (name.drop i ++ '\x60' :: behind) = true :=
        before_closing_run (fun c member => solid c (List.mem_of_mem_drop member)) behind
      have shape : (front ++ '\x60' :: name.take i).reverse =
          (name.take i).reverse ++ '\x60' :: front.reverse := by simp
      rw [insideBackticks, List.take_length_add_append, List.drop_length_add_append,
        List.take_succ_cons, List.drop_succ_cons,
        List.take_append_of_le_length (Nat.le_of_lt short),
        List.drop_append_of_le_length (Nat.le_of_lt short), shape, opening, closing]
      rfl
    have found := same _ inside
    rw [List.getElem?_append_right (by omega), List.getElem?_append_right (by omega)] at found
    simp only [before, Nat.add_sub_cancel_left, List.getElem?_cons_succ] at found
    rw [List.getElem?_append_left short, List.getElem?_append_left (length ▸ short)] at found
    exact found
  · rw [List.getElem?_eq_none long, List.getElem?_eq_none (length ▸ long)]

/-- What stands behind an opening backtick names the same table in both lines. -/
theorem unwrap_recased {text text' : List Char} (recased : Recased text text')
    (solid : ∀ c ∈ text, isBlank c = false) (start : opensName front.reverse = true)
    (before : front.length = front'.length)
    (same : SameNames (front ++ '\x60' :: text) (front' ++ '\x60' :: text')) :
    (unwrapBackticks ('\x60' :: text)).toOption = (unwrapBackticks ('\x60' :: text')).toOption := by
  have mark : Unlettered ['\x60'] := rfl
  have cuts := cut_at_recased mark recased
  rw [unwrap_behind, unwrap_behind]
  generalize cut : cutAt? ['\x60'] text = one at cuts
  generalize cut' : cutAt? ['\x60'] text' = two at cuts
  cases cuts with
  | none => rfl
  | @some parts parts' names =>
      have plain := not_mem_cut_front cut
      rw [cut_at_parts cut, cut_at_parts cut', List.append_assoc, List.append_assoc] at same
      rw [cut_at_parts cut] at solid
      have equal := name_same plain (fun c member => solid c (by simp [member])) start before
        (recased_length names.1) same
      rw [Option.map_some, Option.map_some, equal]

theorem last_name_recased {word word' : List Char} (recased : Recased word word')
    (first : word.head? = some '\x60') (solid : ∀ c ∈ word, isBlank c = false)
    (same : SameNames word word') :
    (unwrapBackticks (lastNamePart word)).toOption =
      (unwrapBackticks (lastNamePart word')).toOption := by
  have mark : Unlettered ['\x60', '.', '\x60'] := rfl
  have cuts := cut_at_last_recased mark recased
  rw [lastNamePart, lastNamePart]
  generalize cut : cutAtLast? ['\x60', '.', '\x60'] word = one at cuts
  generalize cut' : cutAtLast? ['\x60', '.', '\x60'] word' = two at cuts
  cases cuts with
  | none =>
      obtain ⟨text, rfl⟩ := List.head?_eq_some_iff.mp first
      obtain ⟨text', rfl, behind⟩ := recased_mark rfl recased
      have start : opensName [].reverse = true := rfl
      exact unwrap_recased behind (fun c member => solid c (List.mem_cons_of_mem _ member)) start
        rfl same
  | @some parts parts' names =>
      have length := recased_length names.1
      have shape (front back : List Char) : front ++ ['\x60', '.', '\x60'] ++ back =
          front ++ ['\x60', '.'] ++ '\x60' :: back := by simp
      have start : opensName (parts.1 ++ ['\x60', '.']).reverse = true := by
        rw [List.reverse_append]
        rfl
      rw [cut_at_last_parts cut, cut_at_last_parts cut', shape, shape] at same
      rw [cut_at_last_parts cut] at solid
      exact unwrap_recased names.2 (fun c member => solid c (by simp [member])) start
        (by simp [length]) same

/-! Words -/

/-- A pair of words that differ in case, but not in the names in them. -/
def NamesakeWords (word word' : List Char) : Prop := Recased word word' ∧ SameNames word word'

/-- The word that is being read, with what stood before it and what is left to read. -/
theorem namesake_word {far far' word word' text text' : List Char} (begun : Recased word word')
    (length : far.length = far'.length) (start : opensName far.reverse = true)
    (same : SameNames (far ++ (word.reverse ++ text)) (far' ++ (word'.reverse ++ text'))) :
    NamesakeWords word.reverse word'.reverse := by
  have longer : word.length = word'.length := recased_length begun
  constructor
  · rw [Recased, List.map_reverse, List.map_reverse]
    exact congrArg List.reverse begun
  · exact same_names_front (by simp [longer]) (same_names_back length start same)

theorem runs_recased {far far' word word' text text' : List Char} (recased : Recased text text')
    (begun : Recased word word') (length : far.length = far'.length)
    (start : opensName far.reverse = true)
    (same : SameNames (far ++ (word.reverse ++ text)) (far' ++ (word'.reverse ++ text'))) :
    List.Forall₂ NamesakeWords (runsOutside isBlank word text)
      (runsOutside isBlank word' text') := by
  -- What stood before the word is carried along the induction: it tells which backticks open names.
  induction text generalizing far far' word word' text' with
  | nil =>
      obtain rfl : text' = [] := List.map_eq_nil_iff.mp recased.symm
      rw [runsOutside, runsOutside, recased_is_empty begun]
      split
      · exact .nil
      · exact .cons (namesake_word begun length start same) .nil
  | cons c rest ih =>
      obtain ⟨d, rest', rfl, first, behind⟩ := List.map_eq_cons_iff.mp recased.symm
      have kind : isBlank d = isBlank c := by
        rw [← is_blank_capital, first, is_blank_capital]
      have longer : word.length = word'.length := recased_length begun
      rw [runsOutside, runsOutside, recased_is_empty begun, kind]
      by_cases blank : isBlank c = true
      · have next : SameNames ((far ++ (word.reverse ++ [c])) ++ ([].reverse ++ rest))
            ((far' ++ (word'.reverse ++ [d])) ++ ([].reverse ++ rest')) := by
          simpa using same
        have opens : opensName (far ++ (word.reverse ++ [c])).reverse = true := by
          rw [List.reverse_append, List.reverse_append]
          exact opens_name_blank blank _
        have others := ih behind.symm rfl (by simp [length, longer]) opens next
        rw [if_pos blank, if_pos blank]
        split
        · exact others
        · exact .cons (namesake_word begun length start same) others
      · have longerWord : Recased (c :: word) (d :: word') := by
          rw [Recased, List.map_cons, List.map_cons, first, show _ = _ from begun]
        rw [if_neg blank, if_neg blank]
        exact ih behind.symm longerWord length start (by simpa using same)

theorem words_recased {line other : List Char} (recased : Recased line other)
    (same : SameNames line other) :
    List.Forall₂ NamesakeWords (words line) (words other) := by
  have start : opensName [].reverse = true := rfl
  have begun : Recased [] [] := rfl
  exact runs_recased recased begun rfl start same

theorem find_quoted_recased {found others : List (List Char)}
    (related : List.Forall₂ NamesakeWords found others) :
    Option.Rel NamesakeWords (found.find? (·.head? == some '\x60'))
      (others.find? (·.head? == some '\x60')) := by
  induction related with
  | nil => exact .none
  | @cons word word' rest rest' same tail ih =>
      have first : (word.head? == some '\x60') = (word'.head? == some '\x60') := by
        rw [← head_capitals_beq rfl, same.1, head_capitals_beq rfl]
      rw [List.find?_cons, List.find?_cons, first]
      split
      · exact .some same
      · exact ih

theorem read_table_name_recased {line other : List Char} (recased : Recased line other)
    (same : SameNames line other) :
    (readTableName line).toOption = (readTableName other).toOption := by
  have first := find_quoted_recased (words_recased recased same)
  rw [readTableName, readTableName]
  generalize found : (words line).find? (·.head? == some '\x60') = one at first
  generalize (words other).find? (·.head? == some '\x60') = two at first
  cases first with
  | none => rfl
  | @some word word' namesakes =>
      have solid := words_solid (List.mem_of_find?_eq_some found)
      have start : word.head? = some '\x60' := by simpa using List.find?_some found
      dsimp only
      rw [Outcome.to_option_bind, Outcome.to_option_bind,
        last_name_recased namesakes.1 start solid namesakes.2]
      cases (unwrapBackticks (lastNamePart word')).toOption with
      | none => rfl
      | some title =>
          rw [Option.bind_some, Option.bind_some]
          split
          · rfl
          · rfl

end SchemaCompiler.Ddl
