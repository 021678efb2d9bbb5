import SchemaCompiler.Proofs.Outcome
import SchemaCompiler.Proofs.Toml.BasicString

/-!
A document of one table with a string in every line. It is read as that table, unless one of the
strings goes beyond the basic plane.
-/

namespace SchemaCompiler.Toml

open Text Json

/-- A name that is written without quotes. -/
def IsBare (name : List Char) : Prop := name ≠ [] ∧ ∀ c ∈ name, isBareKeyChar c = true

instance (name : List Char) : Decidable (IsBare name) :=
  have := List.decidableBAll (fun c => isBareKeyChar c = true) name
  inferInstanceAs (Decidable (name ≠ [] ∧ ∀ c ∈ name, isBareKeyChar c = true))

def entryLine (entry : String × String) : List Char :=
  entry.1.toList ++ [' ', '=', ' '] ++ quote .ascii entry.2 ++ ['\n']

def tableText (name : String) (entries : List (String × String)) : List Char :=
  '[' :: name.toList ++ [']', '\n'] ++ entries.flatMap entryLine

/-! Keys -/

theorem bare_apart (mark : Char) (other : isBareKeyChar mark = false) {c : Char}
    (bare : isBareKeyChar c = true) : c ≠ mark := by
  rintro rfl
  rw [other] at bare
  cases bare

theorem bare_ends_at {c : Char} {rest : List Char} (other : isBareKeyChar c = false) :
    ∀ first, (c :: rest).head? = some first → isBareKeyChar first = false := by
  intro first same
  cases same
  exact other

theorem read_bare_part {name behind : List Char} (bare : IsBare name)
    (ends : ∀ c, behind.head? = some c → isBareKeyChar c = false) :
    readKeyPart (name ++ behind) = .ok (String.ofList name, behind) := by
  have run : (name ++ behind).takeWhile isBareKeyChar = name ∧
      (name ++ behind).dropWhile isBareKeyChar = behind := by
    rw [List.takeWhile_append_of_pos bare.2, List.dropWhile_append_of_pos bare.2]
    cases behind with
    | nil => simp
    | cons c rest => simp [ends c rfl]
  obtain ⟨c, rest, rfl⟩ := List.exists_cons_of_ne_nil bare.1
  have first := bare.2 c (by simp)
  have quote := bare_apart '"' (by decide) first
  have apostrophe := bare_apart '\'' (by decide) first
  unfold readKeyPart
  split
  · next same => exact absurd (List.cons.inj same).1 quote
  · next same => exact absurd (List.cons.inj same).1 apostrophe
  · simp only [run.1, run.2]
    rfl

theorem read_bare_key {name behind rest : List Char} {c : Char} (bare : IsBare name)
    (ends : ∀ c, behind.head? = some c → isBareKeyChar c = false)
    (next : skipGap behind = c :: rest) (apart : c ≠ '.') :
    readKey (name ++ behind) = .ok ([String.ofList name], c :: rest) := by
  obtain ⟨first, more, rfl⟩ := List.exists_cons_of_ne_nil bare.1
  have part := read_bare_part bare ends
  simp only [readKey, List.cons_append, List.length_cons, readKeyParts] at part ⊢
  rw [part]
  simp only [bind, Except.bind, next]
  split
  · next same => exact absurd (List.cons.inj same).1 apart
  · rfl

/-! Values -/

theorem escape_no_quote (c : Char) : ∃ d rest, escapeChar .ascii c = d :: rest ∧ d ≠ '"' := by
  unfold escapeChar
  split
  · exact ⟨_, _, rfl, by decide⟩
  · exact ⟨_, _, rfl, by decide⟩
  · exact ⟨_, _, rfl, by decide⟩
  · exact ⟨_, _, rfl, by decide⟩
  · exact ⟨_, _, rfl, by decide⟩
  · exact ⟨_, _, rfl, by decide⟩
  · exact ⟨_, _, rfl, by decide⟩
  · next notQuote _ _ _ _ _ _ =>
    have code : ∃ d rest, unicodeEscapeOf c = d :: rest ∧ d ≠ '"' := by
      unfold unicodeEscapeOf
      simp only
      split <;> exact ⟨_, _, rfl, by decide⟩
    split
    · exact code
    · split
      · exact code
      · exact ⟨c, [], rfl, notQuote⟩

theorem read_string_line (s : String) (tail : List Char) :
    readString? (quote .ascii s ++ '\n' :: tail) =
      some (if IsBasic s.toList then .ok (s.toList, '\n' :: tail) else .error .malformed) := by
  rw [quote_text, ← read_quoted_content s.toList ('\n' :: tail)]
  cases s.toList with
  | nil => simp [readString?]
  | cons c rest =>
      obtain ⟨d, more, escaped, apart⟩ := escape_no_quote c
      simp [escaped, readString?, apart]

theorem read_value_line (bound : Nat) (s : String) (tail : List Char) :
    readValue (bound + 1) (quote .ascii s ++ '\n' :: tail) =
      if IsBasic s.toList then .ok (.string s, '\n' :: tail) else .error .malformed := by
  rw [readValue.eq_def]
  simp only [read_string_line]
  by_cases basic : IsBasic s.toList
  · simp [basic, Except.map]
  · simp [basic, Except.map]

/-! Lines -/

/-- The document behind the lines of some entries. -/
def documentOf (name : String) (entries : List (String × String)) : Document where
  entries := [(name, .table (some 1) (entries.map fun (key, s) => (key, .value (.string s))))]
  header := [name]
  sections := 1

theorem entries_of_document (name : String) (entries : List (String × String)) :
    (documentOf name entries).toEntries =
      [(name, .table (entries.map fun (key, s) => (key, .string s)))] := by
  have values : entriesToValues (entries.map fun (key, s) => (key, .value (.string s))) =
      entries.map fun (key, s) => (key, .string s) := by
    induction entries with
    | nil => rfl
    | cons entry rest ih => simp [entriesToValues, Node.toValue, ih]
  simp [documentOf, Document.toEntries, entriesToValues, Node.toValue, values]

theorem insert_entry (name : String) {entries : List (String × String)} {key : String} (s : String)
    (fresh : key ∉ entries.map Prod.fst) :
    (documentOf name entries).insert? [key] (.string s) =
      some (documentOf name (entries ++ [(key, s)])) := by
  have absent : key ∉ (entries.map fun (key, s) => (key, Node.value (.string s))).map Prod.fst := by
    simpa [Function.comp_def] using fresh
  have inner := Association.set_absent (Node.value (.string s)) absent
  simp only [documentOf, Document.insert?, Entries.within?, Entries.insert?, List.lookup_cons,
    beq_self_eq_true, Association.lookup_absent absent, Option.map_some, inner, Association.set,
    if_true, List.map_append, List.map_cons, List.map_nil, Option.bind_eq_bind, Option.bind_some]
  rfl

theorem skip_gap_bare {name : List Char} (bare : IsBare name) (behind : List Char) :
    skipGap (name ++ behind) = name ++ behind := by
  obtain ⟨c, rest, rfl⟩ := List.exists_cons_of_ne_nil bare.1
  have first := bare.2 c (by simp)
  have blank := bare_apart ' ' (by decide) first
  have tab := bare_apart '\t' (by decide) first
  simp [skipGap, isGap, blank, tab]

theorem read_entry_line (bound : Nat) {key : String} (bare : IsBare key.toList) (s : String)
    (tail : List Char) :
    readEntry (bound + 2) (entryLine (key, s) ++ tail) =
      if IsBasic s.toList then .ok ([key], .string s, '\n' :: tail) else .error .malformed := by
  have value := read_value_line bound s tail
  have solid : skipGap (quote .ascii s ++ '\n' :: tail) = quote .ascii s ++ '\n' :: tail := by
    simp [skipGap, isGap, quote]
  have split : entryLine (key, s) ++ tail =
      key.toList ++ ' ' :: '=' :: ' ' :: (quote .ascii s ++ '\n' :: tail) := by
    simp [entryLine]
  generalize quote .ascii s ++ '\n' :: tail = written at value solid split
  have blank : isBareKeyChar ' ' = false := by decide
  have sign : skipGap (' ' :: '=' :: ' ' :: written) = '=' :: ' ' :: written := rfl
  have gap : skipGap (' ' :: written) = written := solid
  have found := read_bare_key bare (bare_ends_at blank) sign (by decide)
  rw [readEntry, split, found, String.ofList_toList]
  simp only [bind, Except.bind, gap, value]
  by_cases basic : IsBasic s.toList
  · simp [basic, pure, Except.pure]
  · simp [basic]

theorem read_statement_bare {name : List Char} (bare : IsBare name) (behind : List Char)
    (document : Document) :
    readStatement document (name ++ behind) = do
      let (key, value, left) ← readEntry (2 * (name ++ behind).length + 2) (name ++ behind)
      return (← orMalformed (document.insert? key value), left) := by
  obtain ⟨c, rest, rfl⟩ := List.exists_cons_of_ne_nil bare.1
  have first := bare.2 c (by simp)
  have bracket := bare_apart '[' (by decide) first
  have comment := bare_apart '#' (by decide) first
  have ending := bare_apart '\n' (by decide) first
  unfold readStatement
  split
  · next same => exact absurd (List.cons.inj same).1 bracket
  · next same => exact absurd (List.cons.inj same).1 bracket
  · next same => exact absurd (List.cons.inj same).1 comment
  · next same => exact absurd (List.cons.inj same).1 ending
  · next same => cases same
  · rfl

theorem read_statement_entry (name : String) {before : List (String × String)} {key : String}
    (bare : IsBare key.toList) (s : String) (fresh : key ∉ before.map Prod.fst)
    (tail : List Char) :
    readStatement (documentOf name before) (skipGap (entryLine (key, s) ++ tail)) =
      if IsBasic s.toList then .ok (documentOf name (before ++ [(key, s)]), '\n' :: tail)
      else .error .malformed := by
  have split : entryLine (key, s) ++ tail =
      key.toList ++ ([' ', '=', ' '] ++ quote .ascii s ++ ['\n'] ++ tail) := by
    simp [entryLine]
  rw [split, skip_gap_bare bare, read_statement_bare bare, ← split, read_entry_line _ bare]
  by_cases basic : IsBasic s.toList
  · simp [basic, bind, Except.bind, insert_entry name s fresh, orMalformed, pure, Except.pure]
  · simp [basic, bind, Except.bind]

theorem line_ended (rest : List Char) :
    skipComment (skipGap ('\n' :: rest)) = .ok ('\n' :: rest) := rfl

/-- The lines of further entries, which have keys of their own. -/
theorem read_statements_entries (name : String) {before entries : List (String × String)}
    {bound : Nat} (enough : entries.length < bound)
    (bare : ∀ entry ∈ entries, IsBare entry.1.toList)
    (distinct : ((before ++ entries).map Prod.fst).Nodup) :
    readStatements bound (documentOf name before) (entries.flatMap entryLine) =
      if ∀ entry ∈ entries, IsBasic entry.2.toList then .ok (documentOf name (before ++ entries))
      else .error .malformed := by
  obtain ⟨bound, rfl⟩ : ∃ more, bound = more + 1 := ⟨bound - 1, by omega⟩
  induction entries generalizing before bound with
  | nil => simp [readStatements, readStatement, skipGap, skipComment, bind, Except.bind, pure,
      Except.pure]
  | cons entry rest ih =>
      obtain ⟨key, s⟩ := entry
      obtain ⟨bound, rfl⟩ : ∃ more, bound = more + 1 := by
        simp only [List.length_cons] at enough
        exact ⟨bound - 1, by omega⟩
      have fresh : key ∉ before.map Prod.fst := by
        intro member
        rw [List.map_append, List.nodup_append] at distinct
        exact distinct.2.2 key member key (by simp) rfl
      have others := fun other member => bare other (List.mem_cons_of_mem (key, s) member)
      have apart : ((before ++ [(key, s)] ++ rest).map Prod.fst).Nodup := by
        simpa [List.append_assoc] using distinct
      have later := ih others apart bound (by simpa using enough)
      have first := read_statement_entry name (bare (key, s) (by simp)) s fresh
        (rest.flatMap entryLine)
      rw [readStatements, List.flatMap_cons, first]
      by_cases basic : IsBasic s.toList
      · have all : (∀ entry ∈ (key, s) :: rest, IsBasic entry.2.toList) ↔
            ∀ entry ∈ rest, IsBasic entry.2.toList := by simp [basic]
        simp only [basic, if_true, bind, Except.bind, line_ended, later, List.append_assoc,
          List.singleton_append, all]
      · have beyond : ¬ ∀ entry ∈ (key, s) :: rest, IsBasic entry.2.toList :=
          fun all => basic (all (key, s) (by simp))
        simp only [basic, beyond, if_false, bind, Except.bind]

/-! Documents -/

theorem read_header (name : String) (bare : IsBare name.toList) (tail : List Char) :
    readStatement {} ('[' :: name.toList ++ [']', '\n'] ++ tail) =
      .ok (documentOf name [], '\n' :: tail) := by
  have found : readKey (name.toList ++ (']' :: '\n' :: tail)) =
      .ok ([name], ']' :: '\n' :: tail) := by
    rw [read_bare_key bare (bare_ends_at (by decide)) (c := ']') rfl (by decide),
      String.ofList_toList]
  have header : readHeader [']'] (name.toList ++ (']' :: '\n' :: tail)) =
      .ok ([name], '\n' :: tail) := by
    rw [readHeader, skip_gap_bare bare, found]
    rfl
  have opened : Document.openTable? {} [name] = some (documentOf name []) := rfl
  obtain ⟨c, rest, cut⟩ := List.exists_cons_of_ne_nil bare.1
  have bracket := bare_apart '[' (by decide) (bare.2 c (by simp [cut]))
  simp only [List.cons_append, List.append_assoc, List.nil_append]
  rw [cut] at header ⊢
  unfold readStatement
  split
  · next same => exact absurd (List.cons.inj (List.cons.inj same).2).1 bracket
  · next same =>
    rw [← (List.cons.inj same).2, header]
    simp only [bind, Except.bind, opened, orMalformed, pure, Except.pure]
  · next same => exact absurd (List.cons.inj same).1 (by decide)
  · next same => exact absurd (List.cons.inj same).1 (by decide)
  · next same => cases same
  · next none _ _ _ => exact absurd rfl (none _)

theorem read_table_text {name : String} {entries : List (String × String)}
    (named : IsBare name.toList) (bare : ∀ entry ∈ entries, IsBare entry.1.toList)
    (distinct : (entries.map Prod.fst).Nodup) {bound : Nat} (enough : entries.length + 1 < bound) :
    readStatements bound {} (tableText name entries) =
      if ∀ entry ∈ entries, IsBasic entry.2.toList then .ok (documentOf name entries)
      else .error .malformed := by
  obtain ⟨bound, rfl⟩ : ∃ more, bound = more + 1 := ⟨bound - 1, by omega⟩
  have start : skipGap (tableText name entries) = tableText name entries := by
    simp [tableText, skipGap, isGap]
  rw [readStatements, start, tableText, read_header name named]
  simp only [bind, Except.bind, line_ended]
  exact read_statements_entries name (by omega) bare distinct

end SchemaCompiler.Toml
