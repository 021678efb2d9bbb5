import SchemaCompiler.Proofs.Json.Readback
import SchemaCompiler.Proofs.Outcome

/-!
Whatever is read can be written and read again: no integer has more digits than are converted, a
double is in the form of its format, and no object has a key twice. What is written shows, apart
from line feeds.
-/

namespace SchemaCompiler.Json

open Text Decimal Outcome

/-! Values that are read -/

theorem set_keys (key : WideText) (value : Json) (before : List (WideText × Json)) :
    (Association.set key value before).map Prod.fst =
      if key ∈ before.map Prod.fst then before.map Prod.fst else before.map Prod.fst ++ [key] := by
  induction before with
  | nil => rfl
  | cons entry rest ih =>
      obtain ⟨other, old⟩ := entry
      rw [Association.set]
      by_cases here : other = key
      · simp [here]
      · by_cases later : key ∈ rest.map Prod.fst
        · rw [if_pos later] at ih
          simp [here, ih, later]
        · rw [if_neg later] at ih
          have absent : key ∉ other :: rest.map Prod.fst := by
            rw [List.mem_cons, not_or]
            exact ⟨Ne.symm here, later⟩
          simp only [beq_iff_eq, here, if_false, List.map_cons, if_neg absent, ih,
            List.cons_append]

theorem set_storable (key : WideText) {value : Json} {before : List (WideText × Json)}
    (storable : Storable value) (others : Storable (.object before)) :
    Storable (.object (Association.set key value before)) := by
  obtain ⟨distinct, each⟩ := others
  constructor
  · rw [set_keys]
    split
    · exact distinct
    · next absent =>
      rw [← List.concat_eq_append]
      exact distinct.concat absent
  · clear distinct
    induction before with
    | nil => exact ⟨storable, trivial⟩
    | cons entry rest ih =>
        rw [Association.set]
        split
        · exact ⟨storable, each.2⟩
        · exact ⟨each.1, ih each.2⟩

/-- A number is an integer of few digits, or a double. -/
theorem number_storable {whole left rest : List Char} {isInteger negative : Bool} {x : FloatValue}
    {value : Json} (double : IsDouble x)
    (read : (if isInteger then
        if maxIntegerDigits < whole.length then some (.error .integerTooLong)
        else some (.ok (.integer (if negative then -(decimalValue whole : Int)
          else decimalValue whole), rest))
      else some (.ok (.float x, rest)) : Option (Except ReadError (Json × List Char))) =
        some (.ok (value, left))) : Storable value := by
  split at read
  · split at read
    · cases read
    · next short =>
      cases read
      have length := digit_length_value (by decide) (Nat.le_of_not_lt short)
      cases negative <;> simpa [Storable] using length
  · cases read
    exact double

theorem unsigned_number_storable {negative : Bool} {text left : List Char} {value : Json}
    (read : readUnsignedNumber? negative text = some (.ok (value, left))) : Storable value := by
  simp only [readUnsignedNumber?] at read
  split at read
  · cases read
  · exact number_storable (to_double_double _) read

theorem scalar_storable {text left : List Char} {value : Json}
    (read : readScalar text = .ok (value, left)) : Storable value := by
  rw [readScalar] at read
  split at read
  · next word found named =>
    cases read
    have among := List.mem_of_find?_eq_some named
    have each : ∀ entry ∈ literals, Storable entry.2 := by
      simp [literals, Storable, IsDouble]
    exact each _ among
  · cases number : readNumber? text with
    | none =>
        rw [number] at read
        cases read
    | some outcome =>
        rw [number] at read
        obtain rfl : outcome = .ok (value, left) := read
        unfold readNumber? at number
        split at number
        · exact unsigned_number_storable number
        · exact unsigned_number_storable number

/-- The readers that call one another read storable values within a number of calls. -/
structure StorableReaders (bound : Nat) : Prop where
  values : ∀ {text value left}, readValue bound text = .ok (value, left) → Storable value
  items : ∀ {text items left}, readItems bound text = .ok (items, left) → StorableItems items
  members : ∀ {before text members left}, Storable (.object before) →
    readMembers bound before text = .ok (members, left) → Storable (.object members)

section Step

variable {bound : Nat} (inner : StorableReaders bound) {text left : List Char}
include inner

theorem value_step {value : Json} (read : readValue (bound + 1) text = .ok (value, left)) :
    Storable value := by
  rw [readValue.eq_def] at read
  simp only at read
  split at read
  · obtain ⟨_, _, same⟩ := (map_ok_iff _ _ _).mp read
    cases same
    trivial
  · split at read
    · cases read
      trivial
    · obtain ⟨_, within, same⟩ := (map_ok_iff _ _ _).mp read
      cases same
      exact inner.items within
  · split at read
    · cases read
      exact ⟨List.nodup_nil, trivial⟩
    · obtain ⟨_, within, same⟩ := (map_ok_iff _ _ _).mp read
      cases same
      have none : Storable (.object []) := ⟨List.nodup_nil, trivial⟩
      exact inner.members none within
  · exact scalar_storable read

theorem items_step {items : List Json} (read : readItems (bound + 1) text = .ok (items, left)) :
    StorableItems items := by
  rw [readItems.eq_def] at read
  simp only at read
  split at read
  · cases read
  · next item rest first =>
    have storable := inner.values first
    split at read
    · cases read
      exact ⟨storable, trivial⟩
    · obtain ⟨_, later, same⟩ := (map_ok_iff _ _ _).mp read
      cases same
      exact ⟨storable, inner.items later⟩
    · cases read

theorem members_step {before members : List (WideText × Json)} (earlier : Storable (.object before))
    (read : readMembers (bound + 1) before text = .ok (members, left)) :
    Storable (.object members) := by
  rw [readMembers.eq_def] at read
  simp only at read
  split at read
  · split at read
    · cases read
    · split at read
      · split at read
        · cases read
        · next value rest first =>
          have storable := fun key => set_storable key (inner.values first) earlier
          split at read
          · cases read
            exact storable _
          · exact inner.members (storable _) read
          · cases read
      · cases read
  · cases read

end Step

theorem readers_storable (bound : Nat) : StorableReaders bound := by
  induction bound with
  | zero =>
      constructor
      · intro text value left read
        rw [readValue] at read
        cases read
      · intro text items left read
        rw [readItems] at read
        cases read
      · intro before text members left _ read
        rw [readMembers] at read
        cases read
  | succ bound ih =>
      constructor
      · exact value_step ih
      · exact items_step ih
      · exact members_step ih

theorem read_storable {text : List Char} {value : Json} (read : Json.read text = .ok value) :
    Storable value := by
  rw [Json.read.eq_def] at read
  split at read
  · cases read
  · split at read
    · cases read
    · next found rest inner =>
      split at read
      · cases read
        exact (readers_storable _).values inner
      · cases read

/-! Characters that are written -/

/-- Every character shows or ends a line. -/
def Lined (text : List Char) : Prop := ∀ c ∈ text, IsPlain c ∨ c = '\n'

theorem lined_append {front back : List Char} (first : Lined front) (second : Lined back) :
    Lined (front ++ back) := by
  intro c member
  rcases List.mem_append.mp member with here | there
  · exact first c here
  · exact second c there

theorem lined_cons {c : Char} {rest : List Char} (head : IsPlain c) (tail : Lined rest) :
    Lined (c :: rest) :=
  List.forall_mem_cons.mpr ⟨Or.inl head, tail⟩

theorem lined_plain {text : List Char} (plain : ∀ c ∈ text, IsPlain c) : Lined text :=
  fun c member => Or.inl (plain c member)

theorem lined_all {text : List Char} (all : text.all (decide <| IsPlain ·) = true) :
    Lined text :=
  lined_plain fun c member => of_decide_eq_true (List.all_eq_true.mp all c member)

theorem layout_lined (layout : Layout) : Lined layout.breakTo ∧ Lined layout.between := by
  have blank : IsPlain ' ' := by decide
  have comma : IsPlain ',' := by decide
  cases layout with
  | line => simp [Lined, Layout.breakTo, Layout.between, blank, comma]
  | nested depth => simp [Lined, Layout.breakTo, Layout.between, blank, comma]

theorem digit_plain {c : Char} (digit : isAsciiDigit c = true) : IsPlain c := by
  have range := ascii_digit_range digit
  exact ⟨by omega, by omega⟩

theorem digits_lined {digits : List Char} (ascii : AsciiDigits digits) : Lined digits :=
  lined_plain fun c member => digit_plain (ascii c member)

theorem signed_lined (negative : Bool) {text : List Char} (lined : Lined text) :
    Lined (withSign negative text) := by
  cases negative with
  | false => exact lined
  | true => exact lined_cons (by decide) lined

theorem integer_lined (n : Int) : Lined (integerText n) := by
  rw [integer_text_sign]
  exact signed_lined _ (digits_lined (to_digits_ascii n.natAbs))

theorem exponent_lined (power : Int) : Lined (exponentText power) := by
  obtain ⟨digits, text, _, ascii, _⟩ := exponent_text_digits power
  rw [text]
  refine lined_cons (by decide) (lined_cons ?_ (digits_lined ascii))
  split <;> decide

theorem float_shape_lined {text : List Char} (shape : FloatShape text) : Lined text := by
  have point : IsPlain '.' := by decide
  cases shape with
  | point part _ places =>
      exact lined_append (digits_lined (whole_part_ascii part).2)
        (lined_cons point (digits_lined places))
  | scientific part _ places power =>
      exact lined_append (digits_lined (whole_part_ascii part).2)
        (lined_cons point (lined_append (digits_lined places) (exponent_lined power)))
  | exponent part power =>
      exact lined_append (digits_lined (whole_part_ascii part).2) (exponent_lined power)

theorem float_lined {x : FloatValue} (double : IsDouble x) : Lined (floatLiteral x) := by
  cases x with
  | notANumber => exact lined_all (by decide)
  | infinite negative => exact signed_lined negative (lined_all (by decide))
  | finite negative m e =>
      obtain ⟨text, _, written, shape, _⟩ := finite_literal double
      rw [written]
      exact signed_lined negative (float_shape_lined shape)

theorem key_lined (key : WideText) {rest : List Char} (tail : Lined rest) :
    Lined (quote .ascii key ++ ':' :: ' ' :: rest) :=
  lined_append (lined_plain (quote_plain key))
    (lined_cons (by decide) (lined_cons (by decide) tail))

mutual

theorem write_lined : (layout : Layout) → (v : Json) → Storable v →
    Lined (write .ascii layout v)
  | _, .null, _ => lined_all (by rw [write]; rfl)
  | _, .bool false, _ => lined_all (by rw [write]; rfl)
  | _, .bool true, _ => lined_all (by rw [write]; rfl)
  | _, .integer n, _ => by
      rw [write]
      exact integer_lined n
  | _, .float x, storable => by
      rw [Storable] at storable
      rw [write]
      exact float_lined storable
  | _, .string s, _ => by
      rw [write]
      exact lined_plain (quote_plain s)
  | _, .array [], _ => lined_all (by rw [write]; rfl)
  | layout, .array (first :: others), storable => by
      simp only [Storable, StorableItems] at storable
      simp only [write, List.cons_append, List.append_assoc]
      exact lined_cons (by decide) (lined_append (layout_lined layout.inner).1
        (lined_append (write_lined layout.inner first storable.1)
          (lined_append (write_items_lined layout.inner others storable.2)
            (lined_append (layout_lined layout).1 (lined_all (by rfl))))))
  | _, .object [], _ => lined_all (by rw [write]; rfl)
  | layout, .object ((key, value) :: others), storable => by
      simp only [Storable, StorableMembers] at storable
      simp only [write, List.cons_append, List.append_assoc, List.nil_append]
      exact lined_cons (by decide) (lined_append (layout_lined layout.inner).1
        (key_lined key (lined_append (write_lined layout.inner value storable.2.1)
          (lined_append (write_members_lined layout.inner others storable.2.2)
            (lined_append (layout_lined layout).1 (lined_all (by rfl)))))))

theorem write_items_lined : (layout : Layout) → (items : List Json) → StorableItems items →
    Lined (writeItems .ascii layout items)
  | _, [], _ => lined_plain (by simp [writeItems])
  | layout, item :: rest, storable => by
      rw [writeItems]
      exact lined_append (lined_append (layout_lined layout).2 (write_lined layout item storable.1))
        (write_items_lined layout rest storable.2)

theorem write_members_lined : (layout : Layout) → (members : List (WideText × Json)) →
    StorableMembers members → Lined (writeMembers .ascii layout members)
  | _, [], _ => lined_plain (by simp [writeMembers])
  | layout, (key, value) :: rest, storable => by
      simp only [writeMembers, List.append_assoc, List.cons_append, List.nil_append]
      exact lined_append (layout_lined layout).2 (key_lined key
        (lined_append (write_lined layout value storable.1)
          (write_members_lined layout rest storable.2)))

end

end SchemaCompiler.Json
