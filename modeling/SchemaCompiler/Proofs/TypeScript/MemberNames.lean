import Mathlib.Data.List.Nodup
import SchemaCompiler.Proofs.TypeScript.PropertyLine

/-!
Members of an enum. A written member is an identifier or a string literal and denotes one name. The
members of an enum denote the names of its labels, unless a name that is no identifier is written
bare: the class of characters that may stand in a bare name is wider than that of identifiers.
Labels whose names are the same have no members: an underscore in front of a number can make two
labels one.
-/

namespace SchemaCompiler.TypeScript

open Text

/-! Identifiers -/

/-- Letters that identifiers of the language have beyond those that are kept when text is
normalised. -/
def compatibilityLetters : List Nat := [
  0x37A, 0x37B, 0xE33, 0xE34, 0xEB3, 0xEB4, 0x309B, 0x309D, 0xFC5E, 0xFC64, 0xFDFA, 0xFDFC,
  0xFE70, 0xFE71, 0xFE72, 0xFE73, 0xFE74, 0xFE75, 0xFE76, 0xFE77, 0xFE78, 0xFE79, 0xFE7A, 0xFE7B,
  0xFE7C, 0xFE7D, 0xFE7E, 0xFE7F, 0xFF9E, 0xFFA0]

def opensIdentifier (c : Char) : Bool :=
  c == '$' || startsIdentifier c || inClass compatibilityLetters c.toNat

/-- Dollars, the letters, digits and marks of all scripts, and the two joiners. -/
def staysIdentifier (c : Char) : Bool :=
  c == '$' || c == '\u200c' || c == '\u200d' || continuesIdentifier c ||
    inClass compatibilityLetters c.toNat

def isIdentifierName (name : String) : Bool :=
  match name.toList with
  | [] => false
  | c :: rest => opensIdentifier c && rest.all staysIdentifier

/-! What a member denotes -/

/-- An identifier denotes itself, and a string literal its content. -/
inductive Denotes : String → WideText → Prop
  | bare {name : String} (identifier : isIdentifierName name = true) : Denotes name name
  | literal {written : String} {name : WideText} {content : List Char}
      (opened : written.toList = '"' :: content)
      (closed : Json.readString 0 content = .ok (name, [])) : Denotes written name

theorem identifier_no_literal {name : String} {content : List Char}
    (identifier : isIdentifierName name = true) (opened : name.toList = '"' :: content) :
    False := by
  simp only [isIdentifierName, opened, Bool.and_eq_true] at identifier
  exact absurd identifier.1 (by decide)

theorem denotes_unique {written : String} {name other : WideText} (first : Denotes written name)
    (second : Denotes written other) : name = other := by
  cases first with
  | bare identifier =>
      cases second with
      | bare => rfl
      | literal opened => exact (identifier_no_literal identifier opened).elim
  | literal opened closed =>
      cases second with
      | bare identifier => exact (identifier_no_literal identifier opened).elim
      | literal again same =>
          cases opened.symm.trans again
          rw [closed, Except.ok.injEq, Prod.mk.injEq] at same
          exact same.1

/-- The name is written bare, and a character of it stands in no identifier. -/
def Misnamed (name : String) : Prop :=
  isPlainName name = true ∧ ∃ c ∈ name.toList, staysIdentifier c = false

theorem ascii_letter_opens {c : Char} (letter : isAsciiLetter c = true) :
    opensIdentifier c = true ∧ staysIdentifier c = true := by
  have below : c.toNat < 128 := ascii_letter_below letter
  simp [opensIdentifier, staysIdentifier, startsIdentifier, continuesIdentifier, below, letter,
    isAsciiAlphanumeric]

theorem plain_identifier_iff {name : String} (plain : isPlainName name = true) :
    isIdentifierName name = true ↔ ∀ c ∈ name.toList, staysIdentifier c = true := by
  rw [isPlainName] at plain
  rw [isIdentifierName]
  split at plain
  · cases plain
  · next first rest spelled =>
    simp only [Bool.and_eq_true, Bool.or_eq_true, beq_iff_eq] at plain
    have starts : opensIdentifier first = true ∧ staysIdentifier first = true := by
      rcases plain.1 with (letter | rfl) | rfl
      · exact ascii_letter_opens letter
      · decide
      · decide
    simp [spelled, starts.1, starts.2]

theorem plain_denotes_iff {name : String} (plain : isPlainName name = true) (other : WideText) :
    Denotes name other ↔ other = name ∧ isIdentifierName name = true := by
  constructor
  · intro denotes
    cases denotes with
    | bare identifier => exact ⟨rfl, identifier⟩
    | literal opened =>
        have quote := plain_name_chars plain '"' (by simp [opened])
        exact absurd quote (by decide)
  · rintro ⟨rfl, identifier⟩
    exact .bare identifier

/-- What is written for a name denotes it and nothing else, unless the name is misnamed: then it
denotes nothing. -/
theorem quote_name_denotes_iff (name : String) (other : WideText) :
    Denotes (quoteName name) other ↔ other = name ∧ ¬ Misnamed name := by
  rw [quoteName]
  split
  · next plain =>
    rw [plain_denotes_iff plain, plain_identifier_iff plain, Misnamed]
    simp [plain]
  · next quoted =>
    have written : Denotes (Json.quoted name) name :=
      .literal (by simp [Json.quoted, Json.quote]) (Json.read_string_quoted 0 .ascii name [])
    have proper : ¬ Misnamed name := fun misnamed => quoted misnamed.1
    constructor
    · exact fun denotes => ⟨denotes_unique denotes written, proper⟩
    · rintro ⟨rfl, _⟩
      exact written

/-! Names of labels -/

/-- A label that starts like a number gets an underscore in front. -/
def labelName (label : String) : String :=
  if startsLikeNumber label then "_" ++ label else label

/-- At two places there are labels of one name. -/
def NamedTwice (labels : List String) : Prop :=
  ∃ (i j : Nat) (label other : String), i < j ∧ labels[i]? = some label ∧ labels[j]? = some other ∧
    labelName label = labelName other

theorem named_twice_iff (labels : List String) :
    NamedTwice labels ↔ ¬ (labels.map labelName).Nodup := by
  rw [List.nodup_iff_getElem?_ne_getElem?]
  constructor
  · rintro ⟨i, j, label, other, before, first, second, same⟩ distinct
    have within : j < (labels.map labelName).length := by
      obtain ⟨below, _⟩ := List.getElem?_eq_some_iff.mp second
      simpa using below
    exact distinct i j before within (by simp [List.getElem?_map, first, second, same])
  · intro repeated
    by_contra apart
    refine repeated fun i j before within same => apart ?_
    have below : j < labels.length := by simpa using within
    have first := List.getElem?_eq_getElem (l := labels) (Nat.lt_trans before below)
    have second := List.getElem?_eq_getElem below
    rw [List.getElem?_map, List.getElem?_map, first, second] at same
    exact ⟨i, j, _, _, before, first, second, Option.some.inj same⟩

/-! Lists of members -/

/-- The member of a label that is a string. -/
def memberOf (label : String) : String := memberName label

/-- Two members are the same only if they are of the same name. -/
theorem members_distinct_iff (labels : List String) :
    (labels.map memberOf).Nodup ↔ (labels.map labelName).Nodup := by
  have injective : Function.Injective fun name : String => quoteName name :=
    fun _ _ same => WideText.plain.inj (quote_name_inj same)
  have composed :
      labels.map memberOf = (labels.map labelName).map fun name : String => quoteName name := by
    rw [List.map_map]
    rfl
  rw [composed, List.nodup_map_iff injective]

theorem add_members_cons (enum : String) (before : List String) (label : String)
    (rest : List String) :
    addMembers enum before (label :: rest) =
      if before.contains (memberOf label) then .error (.repeatedMember enum (memberOf label))
      else addMembers enum (before ++ [memberOf label]) rest := rfl

/-- Behind members that are distinct, labels are rendered as long as no member comes again. -/
theorem add_members_cases (enum : String) (before labels : List String)
    (distinct : before.Nodup) :
    (¬ (before ++ labels.map memberOf).Nodup ∧
      ∃ member, addMembers enum before labels = .error (.repeatedMember enum member)) ∨
    ((before ++ labels.map memberOf).Nodup ∧
      addMembers enum before labels = .ok (before ++ labels.map memberOf)) := by
  induction labels generalizing before with
  | nil =>
      right
      simpa [addMembers] using distinct
  | cons label rest ih =>
      by_cases seen : memberOf label ∈ before
      · left
        refine ⟨fun all => ?_, memberOf label, by simp [add_members_cons, seen]⟩
        exact (List.nodup_append.mp all).2.2 _ seen _ (by simp) rfl
      · have longer : (before ++ [memberOf label]).Nodup := by
          refine List.nodup_append.mpr ⟨distinct, by simp, ?_⟩
          intro member among other last
          rw [List.mem_singleton.mp last]
          rintro rfl
          exact seen among
        have next := ih (before ++ [memberOf label]) longer
        simpa [add_members_cons, seen, List.append_assoc] using next

theorem enum_members_ok {enum : String} {labels members : List String}
    (listed : enumMembers enum labels = .ok members) : members = labels.map memberOf := by
  rcases add_members_cases enum [] labels List.nodup_nil with ⟨_, _, refused⟩ | ⟨_, rendered⟩
  · cases refused.symm.trans listed
  · exact Except.ok.inj (listed.symm.trans rendered)

/-- Labels are refused if and only if two of them have one name. Otherwise there is a member for
each label, in order and no two alike, and a member denotes the name of its label and nothing
else, or nothing at all if this name is misnamed. -/
theorem enum_members_denote (enum : String) (labels : List String) :
    ((∃ member, enumMembers enum labels = .error (.repeatedMember enum member)) ↔
      NamedTwice labels) ∧
    (NamedTwice labels ∨ ∃ members, enumMembers enum labels = .ok members ∧ members.Nodup ∧
      List.Forall₂ (fun label member => ∀ name, Denotes member name ↔
        name = labelName label ∧ ¬ Misnamed (labelName label)) labels members) := by
  rw [named_twice_iff, ← members_distinct_iff]
  rcases add_members_cases enum [] labels List.nodup_nil with
    ⟨repeated, refused⟩ | ⟨distinct, rendered⟩
  · rw [List.nil_append] at repeated
    exact ⟨iff_of_true refused repeated, Or.inl repeated⟩
  · rw [List.nil_append] at distinct rendered
    constructor
    · refine iff_of_false ?_ (not_not.mpr distinct)
      rintro ⟨member, refused⟩
      cases rendered.symm.trans refused
    · refine Or.inr ⟨_, rendered, distinct, ?_⟩
      rw [List.forall₂_map_right_iff, List.forall₂_same]
      exact fun label _ name => quote_name_denotes_iff (labelName label) name

/-- A superscript stands in no identifier, but it is written bare, and then it denotes nothing. -/
theorem enum_members_superscript :
    ¬ NamedTwice ["m", "m²"] ∧ enumMembers "UnitEnum" ["m", "m²"] = .ok ["m", "m²"] ∧
      ∀ name, ¬ Denotes "m²" name := by
  refine ⟨?_, by decide +kernel, ?_⟩
  · rw [named_twice_iff, not_not]
    decide +kernel
  · intro name denotes
    cases denotes with
    | bare identifier => exact absurd identifier (by decide +kernel)
    | literal opened => exact absurd (List.cons.inj opened).1 (by decide)

example : enumMembers "FlagEnum" ["on", "1", "_1"] = .error (.repeatedMember "FlagEnum" "_1") := by
  decide +kernel

end SchemaCompiler.TypeScript
