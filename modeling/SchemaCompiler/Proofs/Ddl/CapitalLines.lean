import SchemaCompiler.Ddl.TableLine
import SchemaCompiler.Proofs.Ddl.CapitalTokens
import SchemaCompiler.Proofs.Ddl.LineReading

/-!
Lines of a table in capitals. What a line reads in lower case, or by the kinds and places of its
tokens alone, is read from its capitals as well. Only the table that a foreign key refers to is
read as it is written.
-/

namespace SchemaCompiler.Ddl

open Text

/-! Lists between parentheses -/

theorem index_capitals {mark : Char} (other : isAsciiLetter mark = false) (text : List Char) :
    (text.map asciiUpperChar).idxOf mark = text.idxOf mark := by
  have composed : (· == mark) ∘ asciiUpperChar = (· == mark) := funext (capital_beq other)
  simp only [List.idxOf, List.findIdx_map, composed]

theorem slice_capitals (text : List Char) (start stop : Nat) :
    slice (text.map asciiUpperChar) start stop = (slice text start stop).map asciiUpperChar := by
  rw [slice, slice, List.map_take, List.map_drop]

theorem unwrap_parentheses_capitals (text : List Char) :
    (unwrapParentheses (text.map asciiUpperChar)).toOption =
      (unwrapParentheses text).toOption := by
  have opening : isAsciiLetter '(' = false := rfl
  have closing : isAsciiLetter ')' = false := rfl
  simp only [unwrapParentheses, contains_capitals opening, contains_capitals closing,
    index_capitals opening, index_capitals closing, slice_capitals, lower_from_capitals]
  split
  · rfl
  · split
    · rfl
    · split
      · rfl
      · rfl

theorem labels_capitals (text : List Char) :
    (labels (text.map asciiUpperChar)).toOption = (labels text).toOption := by
  rw [labels, labels, Outcome.to_option_bind, Outcome.to_option_bind, tokenize_capitals]
  cases (tokenize text).toOption with
  | none => rfl
  | some tokens =>
      have kinds : (tokens.map Token.capitals).map Token.kind = tokens.map Token.kind := by
        rw [List.map_map]
        rfl
      have values (t : Token) : t.capitals.value.toList = t.value.toList.map asciiUpperChar := by
        simp [Token.capitals]
      have elements (found : List (List Token)) := elements_map Token.capitals_kind values found
        fun _ _ s _ t _ => slice_capitals text s.start t.stop
      simp only [Option.map_some, Option.bind_some, kinds, ← List.map_drop, ← List.map_take,
        groups_map Token.capitals_kind, elements]
      split
      · rfl
      · split
        · rfl
        · split
          · rfl
          · cases (groups ((tokens.drop (_ + 1)).take _)).mapM (elementText text) with
            | none => rfl
            | some elements => simp [trim_capitals, Function.comp_def]

/-! Columns -/

theorem to_option_lift {α : Type} (outcome : Except ParseError α) :
    (liftParse outcome).toOption = outcome.toOption := by
  cases outcome with
  | ok a => rfl
  | error e => rfl

theorem group_length_capitals (tokens : List Token) (line other : List Char) :
    (groupLength (tokens.map Token.capitals) other).toOption =
      (groupLength tokens line).toOption := by
  cases tokens with
  | nil => rfl
  | cons first rest =>
      have closing : (fun t : Token => t.kind == .closing) ∘ Token.capitals =
          (fun t => t.kind == .closing) := rfl
      have any : (first.capitals :: rest.map Token.capitals).any (·.kind == .closing) =
          (first :: rest).any (·.kind == .closing) := by
        rw [← List.map_cons, List.any_map, closing]
      have place : (first.capitals :: rest.map Token.capitals).findIdx (·.kind == .closing) =
          (first :: rest).findIdx (·.kind == .closing) := by
        rw [← List.map_cons, List.findIdx_map, closing]
      simp only [List.map_cons, groupLength, any, place, Token.capitals_kind]
      split
      · rfl
      · split
        · rfl
        · rfl

theorem read_length_capitals (line other span : List Char) :
    (readLength other (span.map asciiUpperChar)).toOption = (readLength line span).toOption := by
  rw [readLength, readLength, Outcome.to_option_bind, Outcome.to_option_bind, to_option_lift,
    to_option_lift, unwrap_parentheses_capitals]
  cases (unwrapParentheses span).toOption with
  | none => rfl
  | some inner =>
      simp only [Option.bind_some]
      split
      · rfl
      · rfl

theorem read_type_capitals (title descriptor : String) (span : List Char) (grouped : Bool)
    (flags : List String) (line other : List Char) :
    (readType title descriptor (span.map asciiUpperChar) grouped flags other).toOption =
      (readType title descriptor span grouped flags line).toOption := by
  have size := read_length_capitals line other span
  have found := labels_capitals span
  simp only [readType]
  split
  · rfl
  · split
    · rw [Outcome.to_option_bind, Outcome.to_option_bind, size]
    · split
      · rw [Outcome.to_option_bind, Outcome.to_option_bind, to_option_lift, to_option_lift, found]
      · split
        · rw [Outcome.to_option_bind, Outcome.to_option_bind, to_option_lift, to_option_lift,
            found]
        · split
          · rfl
          · split
            · rfl
            · rfl

theorem last_stop_capitals (group : List Token) (other : Token) :
    ((group.map Token.capitals).getLast?.getD other.capitals).stop =
      (group.getLast?.getD other).stop := by
  rw [List.getLast?_map]
  cases group.getLast? with
  | none => rfl
  | some t => rfl

/-- Tokens in capitals have the same words in lower case, and so have those of any other kind. -/
theorem lowered_capitals (kind : TokenKind) (tokens : List Token) :
    (((tokens.map Token.capitals).filter (·.kind == kind)).map fun t => lower t.value) =
      (tokens.filter (·.kind == kind)).map fun t => lower t.value := by
  induction tokens with
  | nil => rfl
  | cons t rest ih =>
      rw [List.map_cons, List.filter_cons, List.filter_cons, Token.capitals_kind]
      split
      · rw [List.map_cons, List.map_cons, ih, Token.capitals_lower]
      · exact ih

theorem read_column_capitals (name : Token) (rest : List Token) (line : List Char) :
    (readColumn name.capitals (rest.map Token.capitals) (line.map asciiUpperChar)).toOption =
      (readColumn name rest line).toOption := by
  simp only [readColumn, Token.capitals_lower]
  split
  · rfl
  · cases rest with
    | nil => rfl
    | cons type behind =>
        simp only [List.map_cons]
        by_cases word : (type.kind != .word) = true
        · rw [if_pos word, if_pos (show (type.capitals.kind != .word) = true from word)]
          rfl
        · rw [if_neg word, if_neg (show ¬ (type.capitals.kind != .word) = true from word),
            Outcome.to_option_bind, Outcome.to_option_bind, to_option_lift, to_option_lift,
            group_length_capitals behind line]
          cases (groupLength behind line).toOption with
          | none => rw [Option.bind_none, Option.bind_none]
          | some size =>
              -- The text of the type is the only part of the line itself that is read here.
              have last := last_stop_capitals (behind.take size) type
              have flags := lowered_capitals .word (behind.drop size)
              rw [List.map_take] at last
              rw [List.map_drop] at flags
              rw [Option.bind_some, Option.bind_some, Outcome.to_option_bind,
                Outcome.to_option_bind, last, flags, slice_capitals, Token.capitals_start,
                Token.capitals_lower]
              exact congrArg (Option.bind · _) (read_type_capitals _ _ _ _ _ line _)

/-! Table lines -/

/-- The table that a line leaves, if it does not fail. -/
def TableEffect.table? (effect : TableEffect) : Option Table :=
  if effect.failure.isSome then none else some effect.table

theorem table_noted (t : Table) (notes : List Note) :
    ({ table := t, notes } : TableEffect).table? = some t := rfl

theorem listed_columns_capitals (tokens : List Token) :
    listedColumns (tokens.map Token.capitals) = listedColumns tokens := by
  have closing : (fun t : Token => t.kind != .closing) ∘ Token.capitals =
      (fun t => t.kind != .closing) := rfl
  rw [listedColumns, List.takeWhile_map, closing, lowered_capitals, listedColumns]

theorem mark_primary_capitals (line other : List Char) (t : Table) (columns : List String) :
    (markPrimaryColumns other t columns).table? = (markPrimaryColumns line t columns).table? := by
  induction columns generalizing t with
  | nil => rfl
  | cons column rest ih =>
      rw [markPrimaryColumns, markPrimaryColumns]
      split
      · exact ih (t.markPrimary column)
      · rfl

theorem read_primary_key_capitals (tokens : List Token) (line other : List Char) (t : Table) :
    (readPrimaryKey (tokens.map Token.capitals) other t).table? =
      (readPrimaryKey tokens line t).table? := by
  rw [readPrimaryKey, readPrimaryKey, ← List.map_drop, listed_columns_capitals]
  cases listedColumns (tokens.drop 2) with
  | nil => rfl
  | cons column rest => exact mark_primary_capitals line other t (column :: rest)

theorem read_unique_key_capitals (tokens : List Token) (t : Table) :
    readUniqueKey (tokens.map Token.capitals) t = readUniqueKey tokens t := by
  have opening : (fun t : Token => t.kind == .opening) ∘ Token.capitals =
      (fun t => t.kind == .opening) := rfl
  have before : (fun t : Token => t.kind != .opening) ∘ Token.capitals =
      (fun t => t.kind != .opening) := rfl
  rw [readUniqueKey, List.any_map, opening, List.dropWhile_map, before, listed_columns_capitals,
    readUniqueKey]

theorem read_column_line_capitals (name : Token) (rest : List Token) (line : List Char)
    (t : Table) :
    (readColumnLine name.capitals (rest.map Token.capitals) (line.map asciiUpperChar) t).table? =
      (readColumnLine name rest line t).table? := by
  have same := read_column_capitals name rest line
  rw [readColumnLine, readColumnLine]
  cases read : readColumn name rest line with
  | error failure =>
      rw [read] at same
      obtain ⟨other, failed⟩ := (Outcome.to_option_none_iff _).mp same
      rw [failed]
      rfl
  | ok field =>
      rw [read] at same
      rw [(Outcome.to_option_some_iff _ _).mp same]
      dsimp only
      split
      · rfl
      · rfl

theorem comment_capitals (line : List Char) :
    isComment (line.map asciiUpperChar) = isComment line := by
  have dash : Unlettered "--".toList := rfl
  have hash : Unlettered ['#'] := rfl
  have slash : Unlettered "/*".toList := rfl
  rw [isComment, isComment, prefix_capitals dash, prefix_capitals hash, prefix_capitals slash]

/-! Foreign keys -/

/-- The first name behind the word that precedes the table a key refers to. -/
def referenced? (tokens : List Token) : Option String :=
  ((tokens.drop (tokens.findIdx (·.isWord ["references"]))).find? (·.kind == .identifier)).map
    Token.value

theorem find_word_capitals (words : List String) (tokens : List Token) :
    (tokens.map Token.capitals).findIdx (·.isWord words) = tokens.findIdx (·.isWord words) := by
  have composed : (·.isWord words) ∘ Token.capitals = (·.isWord words) :=
    funext fun t => Token.capitals_is_word t words
  rw [List.findIdx_map, composed]

/-- Tokens that differ in the case of their letters refer to the same table if they write its name
in the same way. -/
theorem read_foreign_key_recased {tokens others : List Token} (t : Table)
    (recased : tokens.map Token.capitals = others.map Token.capitals)
    (same : referenced? tokens = referenced? others) :
    readForeignKey tokens t = readForeignKey others t := by
  have length : tokens.length = others.length := by
    simpa using congrArg List.length recased
  have word (words : List String) :
      tokens.findIdx (·.isWord words) = others.findIdx (·.isWord words) := by
    rw [← find_word_capitals, recased, find_word_capitals]
  have listed (start stop : Nat) :
      listedColumns ((tokens.drop start).take stop) =
        listedColumns ((others.drop start).take stop) := by
    rw [← listed_columns_capitals, List.map_take, List.map_drop, recased, ← List.map_drop,
      ← List.map_take, listed_columns_capitals]
  -- Notes name columns in lower case, so they agree together with the tables.
  simp only [referenced?, word] at same
  simp only [readForeignKey, word, length, listed]
  split
  · rfl
  · cases here : (tokens.drop (others.findIdx (·.isWord ["references"]))).find?
        (·.kind == .identifier) with
    | none =>
        rw [here] at same
        rw [Option.map_eq_none_iff.mp same.symm]
    | some target =>
        rw [here] at same
        obtain ⟨other, there, value⟩ := Option.map_eq_some_iff.mp same.symm
        rw [there]
        dsimp only
        rw [value]

/-- Whether the line is read as a foreign key. -/
def startsForeignKey (line : List Char) : Bool :=
  match tokenize line with
  | .ok (first :: _) => first.isWord ["constraint", "foreign"]
  | _ => false

def referencedName? (line : List Char) : Option String := (tokenize line).toOption.bind referenced?

theorem starts_foreign_key_iff (line : List Char) :
    startsForeignKey line = true ↔ ∃ first rest, tokenize line = .ok (first :: rest) ∧
      first.isWord ["constraint", "foreign"] = true := by
  constructor
  · intro starts
    rw [startsForeignKey] at starts
    split at starts
    · next first rest read => exact ⟨first, rest, read, starts⟩
    · cases starts
  · rintro ⟨first, rest, read, word⟩
    rw [startsForeignKey, read]
    exact word

/-- A line that is no foreign key does to a table what its capitals do. -/
theorem read_table_line_capitals (line : List Char) (t : Table)
    (plain : startsForeignKey line = false) :
    (readTableLine (line.map asciiUpperChar) t).table? = (readTableLine line t).table? := by
  rw [readTableLine, readTableLine, comment_capitals]
  split
  · rfl
  · cases read : tokenize line with
    | error e =>
        obtain ⟨other, failed⟩ := tokenize_capitals_error read
        rw [failed]
        rfl
    | ok tokens =>
        rw [tokenize_capitals_ok read]
        cases tokens with
        | nil => rfl
        | cons first rest =>
            have noKey : first.isWord ["constraint", "foreign"] = false := by
              rw [startsForeignKey, read] at plain
              exact plain
            simp only [List.map_cons, Token.capitals_is_word, noKey, Bool.false_eq_true, ↓reduceIte]
            split
            · exact read_primary_key_capitals (first :: rest) line _ t
            · split
              · rw [← List.map_cons, read_unique_key_capitals]
              · cases name : first.kind == .identifier with
                | true =>
                    have named : (first.capitals.kind == .identifier) = true := name
                    rw [if_pos named, if_pos rfl]
                    exact read_column_line_capitals first rest line t
                | false =>
                    have unnamed : ¬ (first.capitals.kind == .identifier) = true := by
                      rw [Token.capitals_kind, name]
                      exact Bool.false_ne_true
                    rw [if_neg unnamed, if_neg Bool.false_ne_true, table_noted, table_noted]

theorem starts_foreign_key_capitals (line : List Char) :
    startsForeignKey (line.map asciiUpperChar) = startsForeignKey line := by
  rw [startsForeignKey, startsForeignKey]
  cases read : tokenize line with
  | error e =>
      obtain ⟨other, failed⟩ := tokenize_capitals_error read
      rw [failed]
  | ok tokens =>
      rw [tokenize_capitals_ok read]
      cases tokens with
      | nil => rfl
      | cons first rest => exact Token.capitals_is_word first _

theorem key_word_other {first : Token} (word : first.isWord ["constraint", "foreign"] = true) :
    first.isWord ["primary"] = false ∧ first.isWord ["unique"] = false := by
  simp only [Token.isWord, Bool.and_eq_true, List.contains_iff_mem, List.mem_cons,
    List.not_mem_nil, or_false] at word
  obtain ⟨-, constraint | foreign⟩ := word
  · simp [Token.isWord, constraint]
  · simp [Token.isWord, foreign]

/-- Two lines that differ in the case of their letters do the same to a table, if both refer to the
same name where they are foreign keys. -/
theorem read_table_line_recased {line other : List Char} (t : Table) (recased : Recased line other)
    (same : startsForeignKey line = true → referencedName? line = referencedName? other) :
    (readTableLine line t).table? = (readTableLine other t).table? := by
  have starts : startsForeignKey line = startsForeignKey other := by
    rw [← starts_foreign_key_capitals, recased, starts_foreign_key_capitals]
  cases key : startsForeignKey line with
  | false =>
      rw [← read_table_line_capitals line t key, recased,
        read_table_line_capitals other t (starts ▸ key)]
  | true =>
      have comment : isComment line = isComment other := by
        rw [← comment_capitals, recased, comment_capitals]
      have named := same key
      obtain ⟨first, rest, read, word⟩ := (starts_foreign_key_iff line).mp key
      obtain ⟨first', rest', read', word'⟩ := (starts_foreign_key_iff other).mp (starts ▸ key)
      have alike : (first :: rest).map Token.capitals = (first' :: rest').map Token.capitals := by
        have tokens := tokenize_capitals_ok read
        rw [recased, tokenize_capitals_ok read'] at tokens
        exact (Except.ok.inj tokens).symm
      rw [referencedName?, referencedName?, read, read'] at named
      cases ignored : isComment line with
      | true =>
          rw [readTableLine, readTableLine, if_pos ignored, if_pos (comment ▸ ignored)]
      | false =>
          have others := key_word_other word
          have others' := key_word_other word'
          rw [read_table_line_key ignored read others.1 others.2 word,
            read_table_line_key (comment ▸ ignored) read' others'.1 others'.2 word',
            read_foreign_key_recased t alike named]

end SchemaCompiler.Ddl
