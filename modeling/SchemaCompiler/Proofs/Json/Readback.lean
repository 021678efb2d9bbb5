import SchemaCompiler.Proofs.Json.Float
import SchemaCompiler.Proofs.Json.StringLiteral

/-!
Reading what was written. A value without integers of more digits than are converted and without a
key twice in an object is read back from its text, in every layout and with either set of raw
characters. The bound of the reader counts down along the text, so twice the length of what was
written suffices for it.
-/

namespace SchemaCompiler.Json

open Text Decimal

mutual

def Storable : Json → Prop
  | .null => True
  | .bool _ => True
  | .integer n => digitLength n.natAbs ≤ maxIntegerDigits
  | .float x => IsDouble x
  | .string _ => True
  | .array items => StorableItems items
  | .object members => (members.map Prod.fst).Nodup ∧ StorableMembers members

def StorableItems : List Json → Prop
  | [] => True
  | item :: rest => Storable item ∧ StorableItems rest

def StorableMembers : List (WideText × Json) → Prop
  | [] => True
  | (_, value) :: rest => Storable value ∧ StorableMembers rest

end

theorem storable_items_iff (items : List Json) :
    StorableItems items ↔ ∀ item ∈ items, Storable item := by
  induction items with
  | nil => simp [StorableItems]
  | cons item rest ih => simp [StorableItems, ih]

theorem storable_members_iff (members : List (WideText × Json)) :
    StorableMembers members ↔ ∀ entry ∈ members, Storable entry.2 := by
  induction members with
  | nil => simp [StorableMembers]
  | cons entry rest ih => simp [StorableMembers, ih]

def Blanks (text : List Char) : Prop := ∀ c ∈ text, isJsonBlank c = true

theorem skip_blanks_append (gap : List Char) (blank : Blanks gap) {c : Char}
    (solid : isJsonBlank c = false) (rest : List Char) :
    skipBlanks (gap ++ c :: rest) = c :: rest := by
  rw [skipBlanks, List.dropWhile_append_of_pos blank]
  simp [solid]

theorem skip_blanks_solid {c : Char} (solid : isJsonBlank c = false) (rest : List Char) :
    skipBlanks (c :: rest) = c :: rest := by
  simp [skipBlanks, solid]

theorem break_blanks (layout : Layout) : Blanks layout.breakTo := by
  cases layout with
  | line => simp [Layout.breakTo, Blanks]
  | nested depth =>
      intro c member
      simp only [Layout.breakTo, List.mem_cons, List.mem_replicate] at member
      rcases member with rfl | ⟨_, rfl⟩ <;> decide

theorem between_comma (layout : Layout) :
    ∃ gap, layout.between = ',' :: gap ∧ Blanks gap := by
  cases layout with
  | line => exact ⟨[' '], rfl, by simp [Blanks, isJsonBlank]⟩
  | nested depth => exact ⟨_, rfl, break_blanks (.nested depth)⟩

theorem ends_number_cons {c : Char} (rest : List Char)
    (apart : isAsciiDigit c = false ∧ c ≠ '.' ∧ c ≠ 'e' ∧ c ≠ 'E') : EndsNumber (c :: rest) := by
  intro d first
  cases first
  exact apart

/-- Between a value and the bracket that closes around it stands nothing that continues it. -/
theorem ends_number_break (layout : Layout) {close : Char} (rest : List Char)
    (apart : isAsciiDigit close = false ∧ close ≠ '.' ∧ close ≠ 'e' ∧ close ≠ 'E') :
    EndsNumber (layout.breakTo ++ close :: rest) := by
  cases layout with
  | line => exact ends_number_cons rest apart
  | nested depth => exact ends_number_cons _ (by decide)

theorem ends_number_between (layout : Layout) (rest : List Char) :
    EndsNumber (layout.between ++ rest) := by
  obtain ⟨gap, comma, _⟩ := between_comma layout
  rw [comma]
  exact ends_number_cons _ (by decide)

/-- What a value starts with that is no string, array or object. -/
def StartsScalar (c : Char) : Prop :=
  isJsonBlank c = false ∧ c ≠ ']' ∧ c ≠ '\ufeff' ∧ c ≠ '"' ∧ c ≠ '[' ∧ c ≠ '\x7b'

instance (c : Char) : Decidable (StartsScalar c) :=
  inferInstanceAs (Decidable (_ ∧ _ ∧ _ ∧ _ ∧ _ ∧ _))

theorem digit_starts {c : Char} (digit : isAsciiDigit c = true) : StartsScalar c := by
  have apart {other : Char} (none : isAsciiDigit other = false) : c ≠ other := by
    rintro rfl
    rw [none] at digit
    cases digit
  refine ⟨?_, apart (by decide), apart (by decide), apart (by decide), apart (by decide),
    apart (by decide)⟩
  have blanks : c ≠ ' ' ∧ c ≠ '\t' ∧ c ≠ '\n' ∧ c ≠ '\r' :=
    ⟨apart (by decide), apart (by decide), apart (by decide), apart (by decide)⟩
  simpa [isJsonBlank, and_assoc] using blanks

theorem signed_starts (negative : Bool) {c : Char} (more : List Char)
    (digit : isAsciiDigit c = true) :
    ∃ d rest, withSign negative (c :: more) = d :: rest ∧ StartsScalar d := by
  cases negative with
  | false => exact ⟨c, more, rfl, digit_starts digit⟩
  | true => exact ⟨'-', c :: more, rfl, by decide⟩

theorem integer_starts (n : Int) : ∃ c more, integerText n = c :: more ∧ StartsScalar c := by
  obtain ⟨c, more, digits⟩ :=
    List.exists_cons_of_ne_nil (Nat.toDigits_ne_nil (n := n.natAbs) (b := 10))
  rw [integer_text_sign, digits]
  exact signed_starts _ more (to_digits_ascii n.natAbs c (by simp [digits]))

theorem float_starts {x : FloatValue} (double : IsDouble x) :
    ∃ c more, floatLiteral x = c :: more ∧ StartsScalar c := by
  cases x with
  | notANumber => exact ⟨'N', _, rfl, by decide⟩
  | infinite negative =>
      cases negative with
      | false => exact ⟨'I', _, rfl, by decide⟩
      | true => exact ⟨'-', _, rfl, by decide⟩
  | finite negative m e =>
      obtain ⟨text, _, written, shape, _⟩ := finite_literal double
      obtain ⟨c, more, rfl, digit⟩ := float_shape_head shape
      rw [written]
      exact signed_starts negative more digit

theorem set_next_key {before others : List (WideText × Json)} {key : WideText} {value : Json}
    (distinct : ((before ++ (key, value) :: others).map Prod.fst).Nodup) :
    Association.set key value before = before ++ [(key, value)] := by
  apply Association.set_absent
  intro member
  rw [List.map_append, List.nodup_append] at distinct
  exact distinct.2.2 key member key (by simp) rfl

/-- The first character of a written value tells it from blanks and from a closing bracket. -/
theorem write_head (charset : Charset) (layout : Layout) (v : Json) (storable : Storable v) :
    ∃ c more, write charset layout v = c :: more ∧ isJsonBlank c = false ∧
      c ≠ ']' ∧ c ≠ '\ufeff' := by
  cases v with
  | null => exact ⟨'n', _, rfl, by decide⟩
  | bool b =>
      cases b with
      | false => exact ⟨'f', _, rfl, by decide⟩
      | true => exact ⟨'t', _, rfl, by decide⟩
  | integer n =>
      obtain ⟨c, more, text, solid, bracket, mark, _⟩ := integer_starts n
      exact ⟨c, more, text, solid, bracket, mark⟩
  | float x =>
      rw [Storable] at storable
      obtain ⟨c, more, text, solid, bracket, mark, _⟩ := float_starts storable
      exact ⟨c, more, text, solid, bracket, mark⟩
  | string s => exact ⟨'"', _, rfl, by decide⟩
  | array items =>
      cases items with
      | nil => exact ⟨'[', _, rfl, by decide⟩
      | cons first rest => exact ⟨'[', _, rfl, by decide⟩
  | object members =>
      cases members with
      | nil => exact ⟨'\x7b', _, rfl, by decide⟩
      | cons first rest => exact ⟨'\x7b', _, rfl, by decide⟩

theorem read_value_scalar (bound : Nat) {c : Char} (start : StartsScalar c) (more : List Char) :
    readValue (bound + 1) (c :: more) = readScalar (c :: more) := by
  obtain ⟨_, _, _, quote, bracket, brace⟩ := start
  rw [readValue]
  · exact fun rest same => quote (List.cons.inj same).1
  · exact fun rest same => bracket (List.cons.inj same).1
  · exact fun rest same => brace (List.cons.inj same).1

theorem read_value_integer (bound : Nat) (n : Int) (rest : List Char) (ends : EndsNumber rest)
    (short : digitLength n.natAbs ≤ maxIntegerDigits) :
    readValue (bound + 1) (integerText n ++ rest) = .ok (.integer n, rest) := by
  have scalar := integer_read n rest ends short
  obtain ⟨c, more, text, start⟩ := integer_starts n
  rw [text] at scalar ⊢
  exact (read_value_scalar bound start _).trans scalar

theorem read_value_float (bound : Nat) {x : FloatValue} (double : IsDouble x) (rest : List Char)
    (ends : EndsNumber rest) :
    readValue (bound + 1) (floatLiteral x ++ rest) = .ok (.float x, rest) := by
  have scalar := double_read double rest ends
  obtain ⟨c, more, text, start⟩ := float_starts double
  rw [text] at scalar ⊢
  exact (read_value_scalar bound start _).trans scalar

theorem read_value_string (charset : Charset) (bound : Nat) (s : WideText) (rest : List Char) :
    readValue (bound + 1) (quote charset s ++ rest) = .ok (.string s, rest) := by
  simp [readValue, quote, read_string_quoted, Except.map]

/-- One member of an object: its key and value are read, and what follows the value decides
whether the object goes on. -/
theorem read_member (charset : Charset) (bound : Nat) (before : List (WideText × Json))
    (key : WideText) {value : Json} {written body rest : List Char} {c : Char}
    (head : written = c :: body) (solid : isJsonBlank c = false)
    (item : readValue bound (written ++ rest) = .ok (value, rest)) :
    readMembers (bound + 1) before (quote charset key ++ ([':', ' '] ++ (written ++ rest))) =
      match skipBlanks rest with
      | '\x7d' :: left => .ok (Association.set key value before, left)
      | ',' :: next => readMembers bound (Association.set key value before) (skipBlanks next)
      | wrong => failAt .comma wrong := by
  have start : skipBlanks (' ' :: (written ++ rest)) = written ++ rest := by
    rw [head]
    exact skip_blanks_append [' '] (by simp [Blanks, isJsonBlank]) solid _
  have colon := skip_blanks_solid (c := ':') (by decide) (' ' :: (written ++ rest))
  simp only [quote, List.cons_append, List.append_assoc, List.nil_append, readMembers,
    read_string_quoted, colon, start, item]
  -- two copies of one match may be left, by where they were written
  all_goals rfl

/-- An array is read back once its items are. -/
theorem read_value_array (charset : Charset) (layout : Layout) (first : Json)
    (others : List Json) (bound : Nat) (rest : List Char) (storable : Storable first)
    (items : readItems bound (write charset layout.inner first ++
      writeItems charset layout.inner others ++ layout.breakTo ++ ']' :: rest) =
        .ok (first :: others, rest)) :
    readValue (bound + 1) (write charset layout (.array (first :: others)) ++ rest) =
      .ok (.array (first :: others), rest) := by
  obtain ⟨c, body, head, solid, notClose, _⟩ := write_head charset layout.inner first storable
  simp only [write, List.append_assoc, List.cons_append, List.nil_append] at items ⊢
  rw [readValue]
  rw [head] at items ⊢
  simp only [List.cons_append] at items ⊢
  rw [skip_blanks_append _ (break_blanks layout.inner) solid]
  split
  · next same => exact absurd (List.cons.inj same).1 notClose
  · rw [items]
    rfl

/-- An object is read back once its members are. -/
theorem read_value_object (charset : Charset) (layout : Layout) (key : WideText) (value : Json)
    (others : List (WideText × Json)) (bound : Nat) (rest : List Char)
    (members : readMembers bound [] (quote charset key ++ ([':', ' '] ++
      (write charset layout.inner value ++ (writeMembers charset layout.inner others ++
        (layout.breakTo ++ '\x7d' :: rest))))) = .ok ((key, value) :: others, rest)) :
    readValue (bound + 1) (write charset layout (.object ((key, value) :: others)) ++ rest) =
      .ok (.object ((key, value) :: others), rest) := by
  have opening := skip_blanks_append layout.inner.breakTo (break_blanks layout.inner)
    (c := '"') (by decide)
  simp only [write, quote, List.append_assoc, List.cons_append, List.nil_append] at members ⊢
  rw [readValue, opening]
  split
  · next same => exact absurd (List.cons.inj same).1 (by decide)
  · rw [members]
    rfl

theorem bound_positive {charset : Charset} {layout : Layout} {v : Json} {bound : Nat}
    (storable : Storable v) (enough : 2 * (write charset layout v).length ≤ bound) :
    ∃ spare, bound = spare + 2 := by
  obtain ⟨c, more, head, _⟩ := write_head charset layout v storable
  rw [head, List.length_cons] at enough
  exact ⟨bound - 2, by omega⟩

-- The bound falls by one with each value, item and member, and each of them takes up at least a
-- character, so it falls by less than twice the text and is never used up.
mutual

theorem read_write (charset : Charset) : (layout : Layout) → (v : Json) → (bound : Nat) →
    (rest : List Char) → Storable v → EndsNumber rest →
    2 * (write charset layout v).length ≤ bound →
    readValue bound (write charset layout v ++ rest) = .ok (v, rest)
  | layout, .null, bound, rest, storable, _, enough => by
      obtain ⟨spare, rfl⟩ := bound_positive storable enough
      exact read_value_scalar _ (by decide : StartsScalar 'n') _
  | layout, .bool false, bound, rest, storable, _, enough => by
      obtain ⟨spare, rfl⟩ := bound_positive storable enough
      exact read_value_scalar _ (by decide : StartsScalar 'f') _
  | layout, .bool true, bound, rest, storable, _, enough => by
      obtain ⟨spare, rfl⟩ := bound_positive storable enough
      exact read_value_scalar _ (by decide : StartsScalar 't') _
  | layout, .integer n, bound, rest, storable, ends, enough => by
      obtain ⟨spare, rfl⟩ := bound_positive storable enough
      simp only [Storable] at storable
      rw [write]
      exact read_value_integer _ n rest ends storable
  | layout, .float x, bound, rest, storable, ends, enough => by
      obtain ⟨spare, rfl⟩ := bound_positive storable enough
      rw [Storable] at storable
      rw [write]
      exact read_value_float _ storable rest ends
  | layout, .string s, bound, rest, storable, _, enough => by
      obtain ⟨spare, rfl⟩ := bound_positive storable enough
      rw [write]
      exact read_value_string charset _ s rest
  | layout, .array [], bound, rest, storable, _, enough => by
      obtain ⟨spare, rfl⟩ := bound_positive storable enough
      simp [write, readValue, skip_blanks_solid (c := ']') (by decide)]
  | layout, .array (first :: others), bound, rest, storable, _, enough => by
      obtain ⟨spare, rfl⟩ := bound_positive storable enough
      simp only [Storable, StorableItems] at storable
      simp only [write, List.length_append, List.length_cons] at enough
      have items := read_write_items charset layout.inner first others layout.breakTo (spare + 1)
        rest storable.1 storable.2 (break_blanks layout)
        (ends_number_break layout rest (by decide)) (by omega)
      exact read_value_array charset layout first others (spare + 1) rest storable.1 items
  | layout, .object [], bound, rest, storable, _, enough => by
      obtain ⟨spare, rfl⟩ := bound_positive storable enough
      simp [write, readValue, skip_blanks_solid (c := '\x7d') (by decide)]
  | layout, .object ((key, value) :: others), bound, rest, storable, _, enough => by
      obtain ⟨spare, rfl⟩ := bound_positive storable enough
      simp only [Storable, StorableMembers] at storable
      simp only [write, List.length_append, List.length_cons] at enough
      have members := read_write_members charset layout.inner [] key value others layout.breakTo
        (spare + 1) rest (by simpa using storable.1) storable.2.1 storable.2.2
        (break_blanks layout)
        (ends_number_break layout rest (by decide)) (by omega)
      exact read_value_object charset layout key value others (spare + 1) rest members
termination_by _ v => sizeOf v

theorem read_write_items (charset : Charset) (layout : Layout) (first : Json)
    (others : List Json) (gap : List Char) (bound : Nat) (rest : List Char)
    (storable : Storable first) (storableOthers : StorableItems others) (blank : Blanks gap)
    (ends : EndsNumber (gap ++ ']' :: rest))
    (enough : 2 * ((write charset layout first).length +
      (writeItems charset layout others).length) + 1 ≤ bound) :
    readItems bound (write charset layout first ++ writeItems charset layout others ++
      gap ++ ']' :: rest) = .ok (first :: others, rest) := by
  obtain ⟨spare, rfl⟩ := Nat.exists_eq_add_of_le' (Nat.le_of_add_left_le enough)
  cases others with
  | nil =>
      simp only [writeItems, List.length_nil] at enough
      have value := read_write charset layout first spare (gap ++ ']' :: rest) storable ends
        (by omega)
      simp only [writeItems, List.append_nil, List.append_assoc]
      rw [readItems, value]
      simp [skip_blanks_append gap blank (c := ']') (by decide)]
  | cons second more =>
      simp only [StorableItems] at storableOthers
      simp only [writeItems, List.length_append] at enough
      obtain ⟨c, body, head, solid, _⟩ := write_head charset layout second storableOthers.1
      obtain ⟨sep, comma, sepBlank⟩ := between_comma layout
      rw [comma, List.length_cons] at enough
      have value := read_write charset layout first spare
        (layout.between ++ (write charset layout second ++
          (writeItems charset layout more ++ (gap ++ ']' :: rest)))) storable
        (ends_number_between layout _) (by omega)
      have items := read_write_items charset layout second more gap spare rest storableOthers.1
        storableOthers.2 blank ends (by omega)
      simp only [writeItems, List.append_assoc] at items ⊢
      rw [readItems, value, comma]
      rw [head] at items ⊢
      simp only [List.cons_append] at items ⊢
      rw [skip_blanks_solid (by decide)]
      simp only [skip_blanks_append sep sepBlank solid, items]
      rfl
termination_by sizeOf first + sizeOf others + 1

theorem read_write_members (charset : Charset) : (layout : Layout) →
    (before : List (WideText × Json)) → (key : WideText) → (value : Json) →
    (others : List (WideText × Json)) → (gap : List Char) → (bound : Nat) → (rest : List Char) →
    ((before ++ (key, value) :: others).map Prod.fst).Nodup →
    Storable value → StorableMembers others → Blanks gap → EndsNumber (gap ++ '\x7d' :: rest) →
    2 * ((write charset layout value).length +
      (writeMembers charset layout others).length) + 1 ≤ bound →
    readMembers bound before (quote charset key ++ ([':', ' '] ++ (write charset layout value ++
      (writeMembers charset layout others ++ (gap ++ '\x7d' :: rest))))) =
        .ok (before ++ (key, value) :: others, rest)
  | layout, before, key, value, [], gap, bound, rest, distinct, storable, _, blank, ends,
      enough => by
      obtain ⟨spare, rfl⟩ := Nat.exists_eq_add_of_le' (Nat.le_of_add_left_le enough)
      simp only [writeMembers, List.length_nil] at enough
      obtain ⟨c, body, head, solid, _⟩ := write_head charset layout value storable
      have item := read_write charset layout value spare (gap ++ '\x7d' :: rest) storable ends
        (by omega)
      rw [writeMembers, List.nil_append, read_member charset spare before key head solid item,
        set_next_key distinct, skip_blanks_append gap blank (by decide)]
      rfl
  | layout, before, key, value, (nextKey, nextValue) :: more, gap, bound, rest, distinct,
      storable, storableOthers, blank, ends, enough => by
      obtain ⟨spare, rfl⟩ := Nat.exists_eq_add_of_le' (Nat.le_of_add_left_le enough)
      simp only [StorableMembers] at storableOthers
      simp only [writeMembers, List.length_append] at enough
      obtain ⟨c, body, head, solid, _⟩ := write_head charset layout value storable
      obtain ⟨sep, comma, sepBlank⟩ := between_comma layout
      rw [comma, List.length_cons] at enough
      have item := read_write charset layout value spare
        (layout.between ++ (quote charset nextKey ++ ([':', ' '] ++
          (write charset layout nextValue ++ (writeMembers charset layout more ++
            (gap ++ '\x7d' :: rest)))))) storable (ends_number_between layout _) (by omega)
      have members := read_write_members charset layout (before ++ [(key, value)]) nextKey
        nextValue more gap spare rest (by simpa using distinct) storableOthers.1
        storableOthers.2 blank ends (by omega)
      have opening := skip_blanks_append sep sepBlank (c := '"') (by decide)
      simp only [writeMembers, List.append_assoc] at item ⊢
      rw [read_member charset spare before key head solid item, set_next_key distinct, comma,
        List.cons_append, skip_blanks_solid (by decide)]
      simp only [quote, List.cons_append, opening, List.append_assoc] at members ⊢
      simpa using members
termination_by _ _ _ value others => sizeOf value + sizeOf others + 1

end

/-- Whatever is written of a storable value, in whichever layout, reads as that value. -/
theorem read_text (charset : Charset) (layout : Layout) (v : Json) (storable : Storable v) :
    read (write charset layout v) = .ok v := by
  obtain ⟨c, body, head, solid, _, notMark⟩ := write_head charset layout v storable
  have whole := read_write charset layout v (2 * (write charset layout v).length + 2) []
    storable (by simp [EndsNumber]) (by omega)
  rw [List.append_nil] at whole
  have start : skipBlanks (write charset layout v) = write charset layout v := by
    rw [head]
    exact skip_blanks_solid solid body
  unfold read
  split
  · next same =>
    rw [head] at same
    exact absurd (List.cons.inj same).1 notMark
  · rw [start, whole]
    rfl

end SchemaCompiler.Json
