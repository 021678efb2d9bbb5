import SchemaCompiler.Naming
import SchemaCompiler.Proofs.Text.Capitals
import SchemaCompiler.Proofs.Text.Digits

/-!
Names made from titles. Joined words can be used as a name unless they begin with a digit or are a
constant; and two titles make one name in snake case when they are written alike, or when one is
written as the other is escaped.
-/

namespace SchemaCompiler.Naming

open Text

/-! Names that can be used -/

/-- The words that are no names, with those in capitals. -/
def reservedWords : List String := keywords ++ ["False", "None", "True"]

def Usable (name : String) : Prop := isIdentifier name.toList = true ∧ name ∉ reservedWords

instance (name : String) : Decidable (Usable name) :=
  inferInstanceAs (Decidable (isIdentifier name.toList = true ∧ name ∉ reservedWords))

def startsLikeNumber (name : String) : Bool := (name.toList.head?.map isDigit).getD false

theorem ascii_alphanumeric_below {c : Char} (kind : isAsciiAlphanumeric c = true) :
    c.toNat < 128 := by
  simp only [isAsciiAlphanumeric, isAsciiLetter, Bool.or_eq_true] at kind
  rcases kind with (upper | lower) | digit
  · exact Nat.lt_of_le_of_lt (ascii_upper_range upper).2 (by decide)
  · exact Nat.lt_of_le_of_lt (ascii_lower_range lower).2 (by decide)
  · exact Nat.lt_of_le_of_lt (ascii_digit_range digit).2 (by decide)

theorem digit_no_letter {c : Char} (digit : isAsciiDigit c = true) : isAsciiLetter c = false := by
  have range := ascii_digit_range digit
  refine Bool.eq_false_iff.mpr fun letter => ?_
  rcases (Bool.or_eq_true _ _).mp letter with upper | lower
  · have capital := ascii_upper_range upper
    omega
  · have small := ascii_lower_range lower
    omega

theorem ascii_digit_eq {c : Char} (below : c.toNat < 128) : isDigit c = isAsciiDigit c := by
  cases digit : isAsciiDigit c <;>
    simp [isDigit, isDecimalDigit, decimalDigit?, below, digit, Nat.not_le.mpr below]

theorem capitalize_alphanumeric {word : List Char}
    (solid : ∀ c ∈ word, isAsciiAlphanumeric c = true) :
    ∀ c ∈ capitalize word, isAsciiAlphanumeric c = true := by
  cases word with
  | nil => exact solid
  | cons first rest =>
      obtain ⟨start, later⟩ := List.forall_mem_cons.mp solid
      exact List.forall_mem_cons.mpr ⟨(is_ascii_alphanumeric_capital first).trans start, later⟩

/-- Joined words begin with a capital or a digit, and hold nothing but letters and digits. -/
theorem pascal_case_ok {title : WideText} {name : String}
    (made : pascalCase title = .ok name) :
    (∀ c ∈ name.toList, isAsciiAlphanumeric c = true) ∧
      ∃ first rest, name.toList = first :: rest ∧ isAsciiLower first = false := by
  have solid := runs_outside_solid (fun c => !isAsciiAlphanumeric c) [] title.shown.toList
    (by simp)
  have present := runs_outside_present (fun c => !isAsciiAlphanumeric c) [] title.shown.toList
  rw [pascalCase] at made
  split at made
  · cases made
  · next found =>
    cases made
    rw [String.toList_ofList]
    generalize runsOutside _ [] title.shown.toList = runs at solid present found ⊢
    constructor
    · intro c member
      obtain ⟨run, among, inside⟩ := List.mem_flatMap.mp member
      exact capitalize_alphanumeric (fun d within => by simpa using solid run among d within) c
        inside
    · obtain ⟨run, others, rfl⟩ := List.exists_cons_of_ne_nil found
      obtain ⟨first, rest, rfl⟩ := List.exists_cons_of_ne_nil (present run (by simp))
      exact ⟨asciiUpperChar first, rest ++ others.flatMap capitalize, rfl,
        capital_not_lower first⟩

/-- No keyword in small letters is the name of a table, but a name may begin with a digit. -/
theorem table_name_usable_iff {title : WideText} {name : String}
    (made : pascalCase title = .ok name) :
    Usable name ↔ startsLikeNumber name = false ∧ name ∉ ["False", "None", "True"] := by
  obtain ⟨solid, first, rest, spelled, large⟩ := pascal_case_ok made
  rw [spelled] at solid
  obtain ⟨start, later⟩ := List.forall_mem_cons.mp solid
  have continues : ∀ c ∈ rest, continuesIdentifier c = true := by
    intro c member
    simp [continuesIdentifier, ascii_alphanumeric_below (later c member), later c member]
  have below := ascii_alphanumeric_below start
  have starts : startsIdentifier first = !isDigit first := by
    have ascii : isDigit first = isAsciiDigit first := ascii_digit_eq below
    cases digit : isAsciiDigit first with
    | true =>
        have number := digit_no_letter digit
        have score : first ≠ '_' := by
          rintro rfl
          cases digit
        simp [startsIdentifier, ascii, digit, below, number, score]
    | false =>
        have letter : isAsciiLetter first = true := by
          simpa [isAsciiAlphanumeric, digit] using start
        simp [startsIdentifier, ascii, digit, below, letter]
  have small : name ∉ keywords := by
    have keywords : ∀ word ∈ keywords,
        (word.toList.head?.map isAsciiLower).getD false = true := by decide
    intro member
    have lower := keywords name member
    rw [spelled] at lower
    simp [large] at lower
  have identifier : isIdentifier name.toList = true ↔ startsLikeNumber name = false := by
    simp [isIdentifier, startsLikeNumber, spelled, starts, List.all_eq_true.mpr continues]
  rw [Usable, identifier, reservedWords, List.mem_append, not_or, and_iff_right small]

/-! Snake case -/

/-- The name of a title before it is kept apart from keywords and numbers. -/
def plainName (title : String) : String :=
  String.ofList ((lowerFrom false (splitCapitals title.toList)).map fun c =>
    if isWordChar c then c else '_')

def escaped (name : String) : String :=
  if keywords.contains name then name ++ "_"
  else if startsLikeNumber name then "_" ++ name
  else name

/-- A name that is escaped, and what it is escaped to. -/
def EscapedTo (name result : String) : Prop :=
  (name ∈ keywords ∧ result = name ++ "_") ∨
    (startsLikeNumber name = true ∧ result = "_" ++ name)

instance (name result : String) : Decidable (EscapedTo name result) :=
  inferInstanceAs (Decidable ((name ∈ keywords ∧ result = name ++ "_") ∨
    (startsLikeNumber name = true ∧ result = "_" ++ name)))

/-- Plain names of which one name is made. -/
def Alike (name other : String) : Prop :=
  name = other ∨ EscapedTo name other ∨ EscapedTo other name

instance (name other : String) : Decidable (Alike name other) :=
  inferInstanceAs (Decidable (name = other ∨ EscapedTo name other ∨ EscapedTo other name))

theorem keyword_initial : ∀ word ∈ keywords,
    ∃ first rest, word.toList = first :: rest ∧ isDigit first = false ∧ first ≠ '_' := by
  have initials : ∀ word ∈ keywords, (word.toList.head?.map fun first =>
      !isDigit first && first != '_').getD false = true := by decide
  intro word known
  have initial := initials word known
  cases spelled : word.toList with
  | nil =>
      rw [spelled] at initial
      cases initial
  | cons first rest =>
      rw [spelled] at initial
      exact ⟨first, rest, rfl, by simpa using initial⟩

theorem scored_no_keyword (name : String) : "_" ++ name ∉ keywords := by
  intro known
  obtain ⟨first, rest, spelled, _, apart⟩ := keyword_initial _ known
  rw [String.toList_append] at spelled
  cases spelled
  exact apart rfl

variable {name other result : String}

theorem number_no_keyword (digit : startsLikeNumber name = true) : name ∉ keywords := by
  intro known
  obtain ⟨first, rest, spelled, plain, _⟩ := keyword_initial _ known
  rw [startsLikeNumber, spelled] at digit
  simp [plain] at digit

/-- What is escaped to is not escaped again. -/
theorem escaped_of_escaped_to (escapes : EscapedTo name result) :
    escaped name = result ∧ escaped result = result := by
  rcases escapes with ⟨known, rfl⟩ | ⟨digit, rfl⟩
  · have words : ∀ word ∈ keywords,
        escaped word = word ++ "_" ∧ escaped (word ++ "_") = word ++ "_" := by decide
    exact words name known
  · have behind : startsLikeNumber ("_" ++ name) = false := by
      simp [startsLikeNumber, show isDigit '_' = false from rfl]
    simp [escaped, number_no_keyword digit, digit, scored_no_keyword, behind]

theorem escaped_cases (name : String) :
    escaped name = name ∨ EscapedTo name (escaped name) := by
  rw [escaped]
  split
  · next known => exact Or.inr (Or.inl ⟨List.contains_iff_mem.mp known, rfl⟩)
  · split
    · next digit => exact Or.inr (Or.inr ⟨digit, rfl⟩)
    · exact Or.inl rfl

/-- No keyword begins like an escaped number. -/
theorem keyword_apart (known : name ∈ keywords) : name ++ "_" ≠ "_" ++ other := by
  obtain ⟨first, rest, spelled, _, apart⟩ := keyword_initial name known
  intro same
  have texts := congrArg String.toList same
  rw [String.toList_append, String.toList_append, spelled] at texts
  exact apart (List.cons.inj texts).1

theorem escaped_to_inj (first : EscapedTo name result) (second : EscapedTo other result) :
    name = other := by
  rcases first with ⟨known, rfl⟩ | ⟨_, rfl⟩
  · rcases second with ⟨_, same⟩ | ⟨_, same⟩
    · exact (String.append_left_inj "_").mp same
    · exact absurd same (keyword_apart known)
  · rcases second with ⟨known, same⟩ | ⟨_, same⟩
    · exact absurd same.symm (keyword_apart known)
    · exact (String.append_right_inj "_").mp same

theorem escaped_eq_iff (name other : String) :
    escaped name = escaped other ↔ Alike name other := by
  constructor
  · intro same
    rcases escaped_cases name with kept | escapes
    · rcases escaped_cases other with alike | changed
      · exact Or.inl (kept.symm.trans (same.trans alike))
      · rw [← same, kept] at changed
        exact Or.inr (Or.inr changed)
    · rcases escaped_cases other with alike | changed
      · rw [same, alike] at escapes
        exact Or.inr (Or.inl escapes)
      · exact Or.inl (escaped_to_inj (same ▸ escapes) changed)
  · rintro (rfl | escapes | escapes)
    · rfl
    · obtain ⟨one, two⟩ := escaped_of_escaped_to escapes
      exact one.trans two.symm
    · obtain ⟨one, two⟩ := escaped_of_escaped_to escapes
      exact two.trans one.symm

/-- Titles make one name where their plain names are the same, and where the plain name of one is
what the other is escaped to. -/
theorem snake_case_eq_iff (title other : String) :
    snakeCase title = snakeCase other ↔ Alike (plainName title) (plainName other) :=
  escaped_eq_iff (plainName title) (plainName other)

example : snakeCase "Class" = snakeCase "class_" := by decide

/-! Snake case of ASCII titles -/

/-- The characters of names in snake case. -/
def isNameChar (c : Char) : Bool := isAsciiLower c || isAsciiDigit c || c == '_'

theorem name_char_ascii {c : Char} (part : isNameChar c = true) :
    c.toNat < 128 ∧ isAsciiUpper c = false := by
  simp only [isNameChar, Bool.or_eq_true, beq_iff_eq] at part
  have outside (apart : ¬ (65 ≤ c.toNat ∧ c.toNat ≤ 90)) : isAsciiUpper c = false :=
    Bool.eq_false_iff.mpr fun upper => apart (ascii_upper_range upper)
  rcases part with (lower | digit) | rfl
  · have range := ascii_lower_range lower
    exact ⟨by omega, outside (by omega)⟩
  · have range := ascii_digit_range digit
    exact ⟨by omega, outside (by omega)⟩
  · decide

theorem name_char_word {c : Char} (below : c.toNat < 128) (small : isAsciiUpper c = false) :
    isWordChar c = isNameChar c := by
  rw [isWordChar, isAlphanumeric, if_pos below, isAsciiAlphanumeric, isAsciiLetter, small,
    Bool.false_or, Bool.or_comm, isNameChar]

/-- Splitting adds nothing but underscores. -/
theorem mem_split_capitals {text : List Char} {c : Char} (member : c ∈ splitCapitals text) :
    c ∈ text ∨ c = '_' := by
  fun_induction splitCapitals text with
  | case1 a b d rest split ih => grind
  | case2 a b d rest kept split ih => grind
  | case3 a b d rest kept whole ih => grind
  | case4 a b split => grind
  | case5 a b kept => exact Or.inl member
  | case6 text => exact Or.inl member

theorem split_capitals_ne_nil {text : List Char} (present : text ≠ []) :
    splitCapitals text ≠ [] := by
  fun_induction splitCapitals text with
  | case6 text => exact present
  | _ => simp

/-- Text without capitals is not split. -/
theorem split_capitals_kept {text : List Char} (small : ∀ c ∈ text, isAsciiUpper c = false) :
    splitCapitals text = text := by
  fun_induction splitCapitals text with
  | case1 a b d rest split => simp [small b (by simp)] at split
  | case2 a b d rest kept split => simp [small a (by simp)] at split
  | case3 a b d rest kept whole ih =>
      rw [ih fun c member => small c (List.mem_cons_of_mem a member)]
  | case4 a b split => simp [small b (by simp)] at split
  | case5 => rfl
  | case6 => rfl

def NameChars (name : String) : Prop := ∀ c ∈ name.toList, isNameChar c = true

instance (name : String) : Decidable (NameChars name) :=
  List.decidableBAll (isNameChar · = true) name.toList

theorem plain_name_chars {title : String} (ascii : ∀ c ∈ title.toList, c.toNat < 128) :
    NameChars (plainName title) := by
  have below : ∀ c ∈ splitCapitals title.toList, c.toNat < 128 := by
    intro c member
    rcases mem_split_capitals member with within | rfl
    · exact ascii c within
    · decide
  intro c member
  rw [plainName, String.toList_ofList, lower_from_ascii false below, List.map_map] at member
  obtain ⟨d, among, rfl⟩ := List.mem_map.mp member
  have image := lower_char_ascii (below d among)
  have same := name_char_word image.1 image.2
  rw [Function.comp_apply, same]
  split
  · assumption
  · rfl

theorem plain_name_present {title : String} (present : title ≠ "") : plainName title ≠ "" := by
  have some : title.toList ≠ [] := fun none => present (String.toList_eq_nil_iff.mp none)
  have lowered := lower_from_ne_nil false (split_capitals_ne_nil some)
  intro none
  have chars := congrArg String.toList none
  rw [plainName, String.toList_ofList] at chars
  exact lowered (List.map_eq_nil_iff.mp chars)

/-- A name in snake case is its own plain name. -/
theorem plain_name_kept {name : String} (chars : NameChars name) : plainName name = name := by
  have small : ∀ c ∈ name.toList, isAsciiUpper c = false := fun c member =>
    (name_char_ascii (chars c member)).2
  have settled : ∀ c ∈ name.toList, Settled c := fun c member =>
    settled_ascii (name_char_ascii (chars c member)).1 (small c member)
  have words : name.toList.map (fun c => if isWordChar c then c else '_') = name.toList := by
    refine (List.map_congr_left fun c member => ?_).trans (List.map_id name.toList)
    have ascii := name_char_ascii (chars c member)
    rw [name_char_word ascii.1 ascii.2, if_pos (chars c member)]
    rfl
  rw [plainName, split_capitals_kept small, lower_from_kept false _ settled, words,
    String.ofList_toList]

theorem escaped_chars {name : String} (chars : NameChars name) : NameChars (escaped name) := by
  have score : NameChars "_" := by decide
  have joined {front back : String} (first : NameChars front) (second : NameChars back) :
      NameChars (front ++ back) := by
    intro c member
    rw [String.toList_append] at member
    exact (List.mem_append.mp member).elim (first c) (second c)
  rcases escaped_cases name with same | ⟨_, same⟩ | ⟨_, same⟩
  · rw [same]
    exact chars
  · rw [same]
    exact joined chars score
  · rw [same]
    exact joined score chars

theorem escaped_present {name : String} (present : name ≠ "") : escaped name ≠ "" := by
  rcases escaped_cases name with same | ⟨_, same⟩ | ⟨_, same⟩
  · rw [same]
    exact present
  · simp [same]
  · simp [same]

theorem escaped_twice (name : String) : escaped (escaped name) = escaped name := by
  rcases escaped_cases name with same | escapes
  · rw [same, same]
  · exact (escaped_of_escaped_to escapes).2

/-- A name is kept just if it is no keyword and does not begin like a number. -/
theorem escaped_eq_self_iff (name : String) :
    escaped name = name ↔ name ∉ keywords ∧ startsLikeNumber name = false := by
  constructor
  · intro kept
    constructor
    · intro known
      rw [escaped, if_pos (List.contains_iff_mem.mpr known)] at kept
      simp at kept
    · refine Bool.eq_false_iff.mpr fun digit => ?_
      have other : ¬ keywords.contains name = true :=
        mt List.contains_iff_mem.mp (number_no_keyword digit)
      rw [escaped, if_neg other, if_pos digit] at kept
      simp at kept
  · rintro ⟨other, plain⟩
    rw [escaped, if_neg (mt List.contains_iff_mem.mp other), plain]
    rfl

/-- The constants are the only reserved words with capitals. -/
theorem name_chars_reserved_iff {name : String} (chars : NameChars name) :
    name ∈ reservedWords ↔ name ∈ keywords := by
  have constants : ∀ word ∈ ["False", "None", "True"], ¬ NameChars word := by decide
  rw [reservedWords, List.mem_append, or_iff_left fun among => constants name among chars]

/-- From an ASCII title a name is made that can be used, and it is made from itself again. -/
theorem snake_case_usable {title : String} (ascii : ∀ c ∈ title.toList, c.toNat < 128)
    (present : title ≠ "") :
    snakeCase title ≠ "" ∧
      (∀ c ∈ (snakeCase title).toList,
        isAsciiLower c = true ∨ isAsciiDigit c = true ∨ c = '_') ∧
      startsLikeNumber (snakeCase title) = false ∧ snakeCase title ∉ reservedWords ∧
      snakeCase (snakeCase title) = snakeCase title := by
  have made (name : String) : snakeCase name = escaped (plainName name) := rfl
  have chars := escaped_chars (plain_name_chars ascii)
  have twice := escaped_twice (plainName title)
  obtain ⟨other, plain⟩ := (escaped_eq_self_iff _).mp twice
  rw [made title]
  refine ⟨escaped_present (plain_name_present present), fun c member => ?_, plain, ?_, ?_⟩
  · simpa [isNameChar, or_assoc] using chars c member
  · exact mt (name_chars_reserved_iff chars).mp other
  · rw [made, plain_name_kept chars, twice]

/-- A digit in front, a capital behind it and a run of capitals in front of a word. -/
theorem snake_case_usable_token :
    (∀ c ∈ "2FAToken".toList, c.toNat < 128) ∧ "2FAToken" ≠ "" ∧
      snakeCase "2FAToken" = "_2_fa_token" ∧ startsLikeNumber "_2_fa_token" = false ∧
      "_2_fa_token" ∉ reservedWords ∧ snakeCase "_2_fa_token" = "_2_fa_token" := by
  have ascii : ∀ c ∈ "2FAToken".toList, c.toNat < 128 := by simp
  have made : snakeCase "2FAToken" = "_2_fa_token" := by decide
  obtain ⟨_, _, plain, other, again⟩ := snake_case_usable ascii (by decide)
  rw [made] at plain other again
  exact ⟨ascii, by decide, made, plain, other, again⟩

end SchemaCompiler.Naming
