import SchemaCompiler.Proofs.Ddl.Spelling
import SchemaCompiler.Proofs.Ddl.TokenKinds

/-!
Lists of labels. However each literal of a list is written, and with whatever blanks around it,
the labels that are read are the texts that the literals stand for, trimmed and in lower case.
-/

namespace SchemaCompiler.Ddl

open Text

def Blanks (gap : List Char) : Prop := ∀ c ∈ gap, isBlank c = true

/-- A literal with blanks around it. -/
inductive Item : List Char → String → Prop
  | spaced {before written after : List Char} {label : String} (front : Blanks before)
      (literal : Literal written label.toList) (behind : Blanks after) :
      Item (before ++ (written ++ after)) label

/-- Literals with a comma behind each but the last. -/
inductive Listing : List Char → List String → Prop
  | last {item : List Char} {label : String} (single : Item item label) : Listing item [label]
  | more {item text : List Char} {label : String} {labels : List String} (first : Item item label)
      (others : Listing text labels) : Listing (item ++ ',' :: text) (label :: labels)

/-! What the tokens of a list say -/

def listed : List String → List (TokenKind × String)
  | [] => []
  | [label] => [(.string, label)]
  | label :: rest => (.string, label) :: (.comma, ",") :: listed rest

/-- No quote goes on with a literal in front of the text. -/
def Unquoted (text : List Char) : Prop := ∀ c, text.head? = some c → ¬ IsQuote c

variable {text : List Char} {said : List (TokenKind × String)}

theorem unquoted_cons {c : Char} (other : ¬ IsQuote c) (rest : List Char) :
    Unquoted (c :: rest) := by
  rintro d ⟨⟩
  exact other

theorem unquoted_blanks {gap : List Char} (blanks : Blanks gap) (unquoted : Unquoted text) :
    Unquoted (gap ++ text) := by
  cases gap with
  | nil => exact unquoted
  | cons c rest =>
      refine unquoted_cons (fun mark => ?_) _
      have blank := blanks c (by simp)
      rw [(quote_other mark).2.2] at blank
      cases blank

theorem told_blanks {gap : List Char} (blanks : Blanks gap) (told : Told text said) :
    Told (gap ++ text) said := by
  induction gap with
  | nil => exact told
  | cons c rest ih =>
      have tail := ih fun d member => blanks d (List.mem_cons_of_mem c member)
      exact told_blank (blanks c (by simp)) tail

theorem told_literal {written value : List Char} (literal : Literal written value)
    (unquoted : Unquoted text) (told : Told text said) :
    Told (written ++ text) ((.string, String.ofList value) :: said) := by
  cases literal with
  | @between quote content value mark quoted =>
      have ends : text.head? ≠ some quote := fun first => unquoted quote first mark
      have lexeme := first_lexeme_quote mark (content ++ quote :: text)
      rw [literal_content_quoted (quote_other mark).1 quoted ends, Option.map_some,
        literal_value_quoted (quote_other mark).1 quoted] at lexeme
      have closed : content ++ quote :: text = (content ++ [quote]) ++ text := by simp
      have length : content.length + 2 = (content ++ [quote]).length + 1 := by simp
      rw [closed, length] at lexeme
      exact told_lexeme (quote_other mark).2.2 lexeme told

theorem told_item {item : List Char} {label : String} (spaced : Item item label)
    (unquoted : Unquoted text) (told : Told text said) :
    Told (item ++ text) ((.string, label) :: said) := by
  cases spaced with
  | @spaced before written after label front literal behind =>
      have tail := told_blanks behind told
      have read := told_literal literal (unquoted_blanks behind unquoted) tail
      rw [String.ofList_toList] at read
      simpa using told_blanks front read

theorem told_mark {c : Char} {kind : TokenKind} (mark : (c, kind) ∈ marks)
    (told : Told text said) : Told (c :: text) ((kind, String.ofList [c]) :: said) :=
  renders_told (.mark mark .done) told

theorem told_word {word : List Char} (letters : Word word)
    (ends : ∀ d, text.head? = some d → continuesName d = false) (told : Told text said) :
    Told (word ++ text) ((.word, lower (String.ofList word)) :: said) := by
  cases letters with
  | letters first others => exact renders_told (.word _ first others ends rfl .done) told

theorem listed_more {list : List Char} {labels : List String} (listing : Listing list labels)
    (label : String) :
    listed (label :: labels) = (.string, label) :: (.comma, ",") :: listed labels := by
  cases listing with
  | last => rfl
  | more => rfl

theorem told_listing {list : List Char} {labels : List String} (listing : Listing list labels)
    (unquoted : Unquoted text) (told : Told text said) :
    Told (list ++ text) (listed labels ++ said) := by
  induction listing with
  | last single => exact told_item single unquoted told
  | @more item list label labels first others ih =>
      have comma : Told (',' :: (list ++ text)) ((.comma, ",") :: (listed labels ++ said)) :=
        told_mark (by decide) ih
      have read := told_item first (unquoted_cons (by decide) _) comma
      rw [listed_more others]
      simpa using read

/-! Reading the list -/

/-- Every literal is a group of its own and stands for its text. -/
theorem elements_listed (text : List Char) {list : List Char} {labels : List String}
    (listing : Listing list labels) {inner : List Token}
    (same : inner.map Token.said = listed labels) :
    (groups inner).mapM (elementText text) = some (labels.map String.toList) := by
  induction listing generalizing inner with
  | last single =>
      obtain ⟨t, rest, rfl, said, none⟩ := List.map_eq_cons_iff.mp same
      obtain rfl := List.map_eq_nil_iff.mp none
      obtain ⟨kind, value⟩ := said_other (by decide) said
      simp [groups, elementText, kind, value]
  | @more item list label labels first others ih =>
      rw [listed_more others] at same
      obtain ⟨t, behind, rfl, said, same⟩ := List.map_eq_cons_iff.mp same
      obtain ⟨comma, rest, rfl, divided, same⟩ := List.map_eq_cons_iff.mp same
      obtain ⟨kind, value⟩ := said_other (by decide) said
      have divider := (said_other (by decide) divided).1
      simp [groups, elementText, kind, value, divider, ih same]

theorem listed_no_closing {list : List Char} {labels : List String}
    (listing : Listing list labels) : ∀ said ∈ listed labels, said.1 ≠ .closing := by
  induction listing with
  | last => simp [listed]
  | more _ others ih =>
      rw [listed_more others]
      simpa using ih

theorem labels_told {word : String} {list : List Char} {found : List String}
    (listing : Listing list found)
    (told : Told text ((.word, word) :: (.opening, "(") :: (listed found ++ [(.closing, ")")]))) :
    labels text = .ok (found.map fun label => lower (trimString label)) := by
  obtain ⟨tokens, read, said⟩ := told
  -- The tokens come apart where what they say does.
  obtain ⟨name, tokens, rfl, named, said⟩ := List.map_eq_cons_iff.mp said
  obtain ⟨first, tokens, rfl, opens, said⟩ := List.map_eq_cons_iff.mp said
  obtain ⟨inner, tokens, rfl, among, said⟩ := List.map_eq_append_iff.mp said
  obtain ⟨last, tokens, rfl, closes, _⟩ := List.map_eq_cons_iff.mp said
  have wordKind : name.kind = .word := congrArg Prod.fst named
  have noClosing : ∀ t ∈ inner, t.kind ≠ .closing := by
    intro t member
    apply listed_no_closing listing t.said
    rw [← among]
    exact List.mem_map_of_mem member
  have decoded : (fun e => String.ofList (lowerFrom false (trim e))) ∘ String.toList =
      fun label => lower (trimString label) := by
    funext label
    simp [lower, trimString]
  change tokenize _ = .ok ([name] ++ first :: (inner ++ last :: tokens)) at read
  rw [labels_listed read (said_other (by decide) opens).1 (said_other (by decide) closes).1
    (by simp [wordKind]) noClosing, listedLabels, elements_listed _ listing among]
  dsimp only
  rw [List.map_map, decoded]

/-- The labels of a list are the texts that its literals stand for, trimmed and in lower case. -/
theorem labels_decoded {front word gap list back : List Char} {found : List String}
    (before : Blanks front) (letters : Word word) (between : Blanks gap)
    (listing : Listing list found) (behind : Blanks back) :
    labels (front ++ (word ++ (gap ++ '(' :: (list ++ ')' :: back)))) =
      .ok (found.map fun label => lower (trimString label)) := by
  have nothing : Told [] [] := ⟨[], rfl, rfl⟩
  have rest : Told back [] := by simpa using told_blanks behind nothing
  have closing : Told (')' :: back) [(.closing, ")")] := told_mark (by decide) rest
  have inside := told_listing listing (unquoted_cons (by decide) back) closing
  have opening : Told ('(' :: (list ++ ')' :: back))
      ((.opening, "(") :: (listed found ++ [(.closing, ")")])) := told_mark (by decide) inside
  have ends : ∀ d, (gap ++ '(' :: (list ++ ')' :: back)).head? = some d →
      continuesName d = false := by
    cases gap with
    | nil => exact word_ends (by decide) _
    | cons c rest => exact word_ends (blank_ends_name (between c (by simp))) _
  have named := told_word letters ends (told_blanks between opening)
  exact labels_told listing (told_blanks before named)

/-- Both quotes, doubled and escaped ones, and marks of the list within the literals. -/
theorem labels_decoded_mixed :
    Listing " 'It''s\\'' ,\"\\\\,)\" ".toList ["It's'", "\\,)"] ∧
      labels "Enum ( 'It''s\\'' ,\"\\\\,)\" )".toList = .ok ["it's'", "\\,)"] := by
  have single : Quoted '\'' "It''s\\'".toList "It's'".toList :=
    .plain (by decide) (by decide) (.plain (by decide) (by decide)
      (.doubled (.plain (by decide) (by decide) (.escaped (by decide) .done))))
  have double : Quoted '"' "\\\\,)".toList "\\,)".toList :=
    .escaped (by decide) (.plain (by decide) (by decide) (.plain (by decide) (by decide) .done))
  have space : Blanks [' '] := by simp [Blanks, isBlank]
  have none : Blanks [] := by simp [Blanks]
  have first := Item.spaced space (.between (.inl rfl) single) space
  have second := Item.spaced none (.between (.inr rfl) double) space
  have listing : Listing " 'It''s\\'' ,\"\\\\,)\" ".toList ["It's'", "\\,)"] := by
    simpa using Listing.more first (.last second)
  have word : Word "Enum".toList := .letters (by decide) (by decide)
  have decoded := labels_decoded none word space listing none
  have lowered : ["It's'", "\\,)"].map (fun label => lower (trimString label)) =
      ["it's'", "\\,)"] := by
    decide +kernel
  rw [lowered] at decoded
  exact ⟨listing, by simpa using decoded⟩

end SchemaCompiler.Ddl
