import SchemaCompiler.Proofs.Ddl.NameParts
import SchemaCompiler.Proofs.Ddl.Steps
import SchemaCompiler.Proofs.Ddl.TableMarker
import SchemaCompiler.Proofs.Ddl.TokenPlaces

/-!
Names of tables by their tokens. A name goes on with every dot and name behind it. The line of a
table is not read token by token, but word by word, so the parts of a name count as far as they
stand side by side, and a blank within a part hides the name.
-/

namespace SchemaCompiler.Ddl

open Text

/-! Names of several parts -/

def Token.isDot (t : Token) : Bool := t.kind == .symbol && t.value == "."

/-- The last part of a name that goes on with every dot and name behind it. -/
def lastPart (name : Token) : List Token → Token
  | dot :: next :: rest =>
    if dot.isDot && next.kind == .identifier then lastPart next rest else name
  | _ => name

/-- The last part of a name up to its first gap, when no blank stands within these parts. -/
def joinedPart? (name : Token) (behind : List Token) : Option Token :=
  if name.value.toList.any isBlank then none
  else match behind with
    | dot :: next :: rest =>
      if dot.isDot && next.kind == .identifier && name.stop == dot.start && dot.stop == next.start
      then joinedPart? next rest
      else some name
    | _ => some name

/-! Texts of tokens -/

variable {line : List Char} {place : Nat} {t : Token} {others : List Token}

theorem stands_name (stands : Stands line place t others) (kind : t.kind = .identifier) :
    '\x60' ∉ t.value.toList ∧
      line.drop t.start = '\x60' :: (t.value.toList ++ '\x60' :: line.drop t.stop) := by
  have lexeme := stands.lexeme
  rw [kind] at lexeme
  obtain ⟨plain, length, back, here⟩ := first_lexeme_identifier lexeme
  have behind : line.drop t.stop = back := by
    have span := stands.span
    have stop : t.stop = t.start + (t.value.toList.length + 2) := by omega
    rw [stop, ← List.drop_drop, here]
    simp
  exact ⟨plain, by rw [behind, here]⟩

theorem stands_dot (stands : Stands line place t others) (dot : t.isDot = true) :
    line.drop t.start = '.' :: line.drop t.stop := by
  obtain ⟨kind, value⟩ : t.kind = .symbol ∧ t.value = "." := by simpa [Token.isDot] using dot
  have lexeme := stands.lexeme
  rw [kind, value] at lexeme
  obtain ⟨length, c, back, symbol, here⟩ := first_lexeme_symbol lexeme
  obtain rfl : '.' = c := by simpa using symbol
  have span := stands.span
  have stop : t.stop = t.start + 1 := by omega
  rw [stop, ← List.drop_drop, here]
  rfl

/-- A token that does not follow at once stands behind a blank. -/
theorem stands_gap (stands : Stands line place t others) (apart : place ≠ t.start) :
    ∃ c more, line.drop place = c :: more ∧ isBlank c = true := by
  have beyond : place < t.start := Nat.lt_of_le_of_ne stands.behind apart
  cases here : line.drop place with
  | nil =>
      have lexeme := stands.lexeme
      have short := List.drop_eq_nil_iff.mp here
      rw [List.drop_eq_nil_of_le (Nat.le_trans short stands.behind)] at lexeme
      cases lexeme
  | cons c more => exact ⟨c, more, rfl, stands.gap c (by simp [slice_first here beyond])⟩

/-- A name goes on with a dot and a backtick behind it. -/
theorem dot_behind {more : List Char} (read : ReadFrom line place others)
    (here : line.drop place = '.' :: '\x60' :: more) :
    ∃ dot next rest, others = dot :: next :: rest ∧ dot.isDot = true ∧
      next.kind = .identifier := by
  obtain ⟨dot, behind, rfl, rfl, stands⟩ := read_from_solid read here (by decide)
  have lexeme := stands.lexeme
  have point : firstLexeme? ('.' :: '\x60' :: more) = some ⟨.symbol, ['.'], 1⟩ := rfl
  rw [here, point] at lexeme
  injection lexeme with lexeme
  injection lexeme with kind value length
  have span := stands.span
  have stop : dot.stop = dot.start + 1 := by omega
  have tick : line.drop dot.stop = '\x60' :: more := by
    rw [stop, ← List.drop_drop, here]
    rfl
  obtain ⟨next, rest, rfl, first, further⟩ := read_from_solid stands.others tick (by decide)
  refine ⟨dot, next, rest, rfl, ?_, ?_⟩
  · have same : dot.value = "." := by rw [← String.toList_inj, ← value]; rfl
    simp [Token.isDot, ← kind, same]
  · have lexeme := further.lexeme
    rw [first, tick] at lexeme
    cases cut : firstLexeme?.cut more with
    | none => simp [firstLexeme?, cut] at lexeme
    | some name => exact (by simpa [firstLexeme?, cut] using lexeme : _ = _ ∧ _).1.symm

variable {name : Token} {rest : List Token} {title : List Char}

/-- Where a name ends, nothing marks a further part. -/
theorem unmarked_behind (read : ReadFrom line place rest)
    (ends : ∀ dot next more, rest = dot :: next :: more → dot.isDot = true →
      next.kind ≠ .identifier)
    (clear : Unmarked (wordAt (line.drop place))) :
    Unmarked ('\x60' :: wordAt (line.drop place)) := by
  intro inside
  rcases List.infix_cons_iff.mp inside with front | deeper
  · -- The closing backtick of the name would begin the mark, and the name would go on.
    have mark : ['.', '\x60'] <+: wordAt (line.drop place) := (List.cons_prefix_cons.mp front).2
    obtain ⟨more, here⟩ := mark.trans (List.takeWhile_prefix _)
    obtain ⟨dot, next, later, shape, isDot, named⟩ := dot_behind read here.symm
    exact ends dot next later shape isDot named
  · exact clear deeper

/-- What is read of a name that ends with its first part. -/
theorem name_of_single (stands : Stands line place name rest) (kind : name.kind = .identifier)
    (solid : ∀ c ∈ name.value.toList, isBlank c = false)
    (clear : Unmarked ('\x60' :: wordAt (line.drop name.stop)))
    (lone : name.value.toList = title ∨ '\x60' ∉ wordAt (line.drop name.stop)) :
    nameIn? (wordAt (line.drop name.start)) = some title ↔
      title ≠ ['.'] ∧ name.value.toList = title := by
  obtain ⟨plain, here⟩ := stands_name stands kind
  have word : wordAt (line.drop name.start) =
      '\x60' :: (name.value.toList ++ '\x60' :: wordAt (line.drop name.stop)) := by
    have parts := word_at_append (quoted_solid solid) (line.drop name.stop)
    simpa [here] using parts
  rw [word]
  -- A single dot is cut off together with its backticks, and what follows is read instead.
  by_cases dot : name.value.toList = ['.']
  · rw [dot] at lone ⊢
    have never : nameIn? ('\x60' :: (['.'] ++ '\x60' :: wordAt (line.drop name.stop))) ≠
        some title := by
      rcases lone with rfl | plainly
      · exact name_in_dot clear
      · rw [List.singleton_append, name_in_point, name_in_plain plainly]
        simp
    simp only [never, false_iff, not_and]
    exact fun other same => other same.symm
  · rw [name_in_name plain dot clear, Option.some.injEq]
    exact ⟨fun same => ⟨same ▸ dot, same⟩, And.right⟩

/-- A blank within its first part hides a name. -/
theorem name_of_broken (stands : Stands line place name rest) (kind : name.kind = .identifier)
    (broken : name.value.toList.any isBlank = true) :
    nameIn? (wordAt (line.drop name.start)) = none := by
  obtain ⟨plain, here⟩ := stands_name stands kind
  rw [here, word_at_tick, word_at_broken broken]
  exact name_in_plain fun member => plain ((List.takeWhile_prefix _).subset member)

/-- A name with a part right behind it is read as that part is. -/
theorem name_of_joined {dot next : Token} (stands : Stands line place name (dot :: next :: rest))
    (kind : name.kind = .identifier) (solid : ∀ c ∈ name.value.toList, isBlank c = false)
    (isDot : dot.isDot = true) (named : next.kind = .identifier) (first : name.stop = dot.start)
    (second : dot.stop = next.start) :
    nameIn? (wordAt (line.drop name.start)) = nameIn? (wordAt (line.drop next.start)) := by
  have behind := read_from_cons stands.others
  have further := read_from_cons behind.others
  obtain ⟨_, here⟩ := stands_name stands kind
  obtain ⟨_, there⟩ := stands_name further named
  rw [first, stands_dot behind isDot, second, there] at here
  generalize next.value.toList ++ '\x60' :: line.drop next.stop = back at here there
  have word := word_at_append (quoted_solid solid) ('.' :: '\x60' :: back)
  have parts := name_in_behind ('\x60' :: name.value.toList) (wordAt back)
  simp only [List.cons_append, List.append_assoc, List.nil_append, word_at_dot,
    word_at_tick] at word parts
  rw [here, there, word_at_tick, word_at_tick, word, parts]

/-- Behind a name that goes on behind a gap, at most a dot stands at once. -/
theorem word_behind_gap {dot next : Token} (stands : Stands line place name (dot :: next :: rest))
    (isDot : dot.isDot = true) (apart : ¬ (name.stop = dot.start ∧ dot.stop = next.start)) :
    wordAt (line.drop name.stop) = [] ∨ wordAt (line.drop name.stop) = ['.'] := by
  have behind := read_from_cons stands.others
  by_cases first : name.stop = dot.start
  · have second := fun same => apart ⟨first, same⟩
    obtain ⟨c, more, here, blank⟩ := stands_gap (read_from_cons behind.others) second
    right
    rw [first, stands_dot behind isDot, here, word_at_dot, word_at_blank blank]
  · obtain ⟨c, more, here, blank⟩ := stands_gap behind first
    left
    rw [here, word_at_blank blank]

theorem name_of_end (stands : Stands line place name rest) (kind : name.kind = .identifier)
    (ends : ∀ dot next more, rest = dot :: next :: more → dot.isDot = true →
      next.kind ≠ .identifier)
    (clear : Unmarked (wordAt (line.drop name.stop))) (last : name.value.toList = title) :
    nameIn? (wordAt (line.drop name.start)) = some title ↔
      title ≠ ['.'] ∧ ∃ part, joinedPart? name rest = some part ∧ part.value.toList = title := by
  have alone : joinedPart? name rest =
      if name.value.toList.any isBlank then none else some name := by
    rw [joinedPart?.eq_def]
    split
    · rfl
    · split
      · next dot next more =>
        refine if_neg fun joined => ?_
        simp only [Bool.and_eq_true, beq_iff_eq] at joined
        exact ends dot next more rfl joined.1.1.1 joined.1.1.2
      · rfl
  rw [alone]
  by_cases broken : name.value.toList.any isBlank = true
  · rw [if_pos broken, name_of_broken stands kind broken]
    simp
  · have solid : ∀ c ∈ name.value.toList, isBlank c = false := by simpa using broken
    rw [if_neg broken,
      name_of_single stands kind solid (unmarked_behind stands.others ends clear) (Or.inl last)]
    simp

/-- What is read where a name starts, by the tokens of the name. -/
theorem name_of_parts (stands : Stands line place name rest) (kind : name.kind = .identifier)
    (clear : Unmarked (wordAt (line.drop (lastPart name rest).stop)))
    (last : (lastPart name rest).value.toList = title) :
    nameIn? (wordAt (line.drop name.start)) = some title ↔
      title ≠ ['.'] ∧ ∃ part, joinedPart? name rest = some part ∧ part.value.toList = title := by
  fun_induction lastPart name rest generalizing place with
  | case1 name dot next rest goesOn ih =>
      obtain ⟨isDot, named⟩ : dot.isDot = true ∧ next.kind = .identifier := by simpa using goesOn
      have further := read_from_cons (read_from_cons stands.others).others
      rw [joinedPart?]
      by_cases broken : name.value.toList.any isBlank = true
      · rw [if_pos broken, name_of_broken stands kind broken]
        simp
      · have solid : ∀ c ∈ name.value.toList, isBlank c = false := by simpa using broken
        rw [if_neg broken]
        -- Either the next part is in the same word, or a gap ends the word in front of it.
        by_cases joined : name.stop = dot.start ∧ dot.stop = next.start
        · rw [name_of_joined stands kind solid isDot named joined.1 joined.2,
            ih further named clear last]
          simp [isDot, named, joined]
        · have gap := word_behind_gap stands isDot joined
          have plain : '\x60' ∉ wordAt (line.drop name.stop) := by
            rcases gap with none | point
            · simp [none]
            · simp [point]
          rw [name_of_single stands kind solid (unmarked_plain plain) (Or.inr plain)]
          simp [isDot, named, joined]
  | case2 name dot next rest ends =>
      refine name_of_end stands kind ?_ clear last
      rintro _ _ _ ⟨⟩ isDot named
      exact ends (by simp [isDot, named])
  | case3 name rest short =>
      exact name_of_end stands kind (fun dot next more same => (short dot next more same).elim)
        clear last

/-! Lines that open tables -/

/-- A line that opens a table, with the first name behind its marker and what follows the name. -/
structure Declares (line : List Char) (first : Token) (rest : List Token) : Prop where
  opens : hasCreateTable false (line.takeWhile (· != '\x60')) = true
  tokens : (tokenize line).toOption.map (List.dropWhile (·.kind != .identifier)) =
    some (first :: rest)

instance (line : List Char) (first : Token) (rest : List Token) :
    Decidable (Declares line first rest) :=
  decidable_of_iff (hasCreateTable false (line.takeWhile (· != '\x60')) = true ∧
      (tokenize line).toOption.map (List.dropWhile (·.kind != .identifier)) = some (first :: rest))
    ⟨fun ⟨opens, tokens⟩ => ⟨opens, tokens⟩, fun declares => ⟨declares.opens, declares.tokens⟩⟩

variable {first : Token}

theorem declares_opens (declares : Declares line first rest) :
    hasCreateTable false line = true := by
  have stop : Stop '\x60' := ⟨by decide, by decide⟩
  have parts := List.takeWhile_append_dropWhile (p := (· != '\x60')) (l := line)
  have stops := List.head?_dropWhile_not (· != '\x60') line
  cases behind : line.dropWhile (· != '\x60') with
  | nil =>
      rw [behind, List.append_nil] at parts
      exact parts ▸ declares.opens
  | cons c back =>
      rw [behind] at stops parts
      obtain rfl : c = '\x60' := by simpa using stops
      rw [← parts, has_create_table_stop stop, declares.opens, Bool.true_or]

theorem declares_stands (declares : Declares line first rest) :
    first.kind = .identifier ∧ ∃ place, Stands line place first rest := by
  obtain ⟨tokens, read, named⟩ := Option.map_eq_some_iff.mp declares.tokens
  have parts := List.takeWhile_append_dropWhile (p := (·.kind != .identifier)) (l := tokens)
  have stops := List.head?_dropWhile_not (·.kind != .identifier) tokens
  rw [named] at parts stops
  refine ⟨by simpa using stops, ?_⟩
  have whole := read_from_start ((Outcome.to_option_some_iff _ _).mp read)
  rw [← parts] at whole
  obtain ⟨place, behind⟩ := read_from_append whole
  exact ⟨place, read_from_cons behind⟩

/-- The table of a line is called by the last part of the first name in it, and reading the line
opens the table of this title, exactly when all parts stand side by side, hold no blank and the
last one is not a single dot. The name stands behind a blank, no other word in front of it begins
with a backtick, and no dot between backticks follows in the word that it ends in. -/
theorem table_name_read (declares : Declares line first rest)
    (present : (lastPart first rest).value ≠ "")
    (spaced : (line.take first.start).getLast?.all isBlank = true)
    (unquoted : ∀ word ∈ words (line.take first.start), word.head? ≠ some '\x60')
    (clear : Unmarked (wordAt (line.drop (lastPart first rest).stop))) :
    (readTableName line = .ok (lastPart first rest).value ↔
      (lastPart first rest).value ≠ "." ∧ ∃ part, joinedPart? first rest = some part ∧
        part.value = (lastPart first rest).value) ∧
      (readTableName line = .ok (lastPart first rest).value → ∀ reading,
        (advance reading line).failure = none ∧
          (advance reading line).reading = ⟨.inside (lastPart first rest).value,
            reading.database.add { title := (lastPart first rest).value }⟩) := by
  obtain ⟨kind, place, stands⟩ := declares_stands declares
  refine ⟨?_, fun read reading => advance_opening reading (declares_opens declares) read⟩
  obtain ⟨_, here⟩ := stands_name stands kind
  have parts := List.take_append_drop first.start line
  have reading := name_of_parts stands kind clear rfl
  rw [here] at parts reading
  have whole := read_table_name_iff (first.value.toList ++ '\x60' :: line.drop first.stop)
    (lastPart first rest).value spaced unquoted
  rw [parts, reading, and_iff_right present] at whole
  have dot : (lastPart first rest).value.toList = ['.'] ↔ (lastPart first rest).value = "." := by
    rw [← String.toList_inj]
    rfl
  simpa only [ne_eq, dot, String.toList_inj] using whole

def quotedLine : List Char := "create table if not exists `a(b`.`.`.`c.d` (`id` int);".toList

theorem table_name_read_quoted : readTableName quotedLine = .ok "c.d" := by
  have declares : Declares quotedLine ⟨.identifier, "a(b", 27, 32⟩
      [⟨.symbol, ".", 32, 33⟩, ⟨.identifier, ".", 33, 36⟩, ⟨.symbol, ".", 36, 37⟩,
        ⟨.identifier, "c.d", 37, 42⟩, ⟨.opening, "(", 43, 44⟩, ⟨.identifier, "id", 44, 48⟩,
        ⟨.word, "int", 49, 52⟩, ⟨.closing, ")", 52, 53⟩, ⟨.symbol, ";", 53, 54⟩] := by
    decide +kernel
  have read := table_name_read declares (by decide) (by decide +kernel) (by decide +kernel)
    (by decide +kernel)
  exact read.1.mpr ⟨by decide, _, by decide +kernel, rfl⟩

/-- The tokens of the line name another table than the one that is read, or none is read. -/
def Misread (line : List Char) (first : Token) (rest : List Token) : Prop :=
  Declares line first rest ∧ (lastPart first rest).value ≠ "" ∧
    readTableName line ≠ .ok (lastPart first rest).value

instance (line : List Char) (first : Token) (rest : List Token) :
    Decidable (Misread line first rest) :=
  inferInstanceAs (Decidable (_ ∧ _ ∧ _))

/-- A name is misread when its parts are spaced, when a blank or a single dot is quoted, when it
follows the marker at once, when a word of a literal in front begins with a backtick, and when
quoted names with a dot between them follow at once. -/
theorem names_misread :
    Misread "CREATE TABLE `s` . `t`(".toList ⟨.identifier, "s", 13, 16⟩
        [⟨.symbol, ".", 17, 18⟩, ⟨.identifier, "t", 19, 22⟩, ⟨.opening, "(", 22, 23⟩] ∧
      Misread "CREATE TABLE `my table` (".toList ⟨.identifier, "my table", 13, 23⟩
        [⟨.opening, "(", 24, 25⟩] ∧
      Misread "CREATE TABLE `.` (".toList ⟨.identifier, ".", 13, 16⟩ [⟨.opening, "(", 17, 18⟩] ∧
      Misread "CREATE TABLE`t` (".toList ⟨.identifier, "t", 12, 15⟩ [⟨.opening, "(", 16, 17⟩] ∧
      Misread "CREATE TABLE ' `x' `t` (".toList ⟨.identifier, "t", 19, 22⟩
        [⟨.opening, "(", 23, 24⟩] ∧
      Misread "CREATE TABLE `t`(`a`.`b`)".toList ⟨.identifier, "t", 13, 16⟩
        [⟨.opening, "(", 16, 17⟩, ⟨.identifier, "a", 17, 20⟩, ⟨.symbol, ".", 20, 21⟩,
          ⟨.identifier, "b", 21, 24⟩, ⟨.closing, ")", 24, 25⟩] := by
  decide +kernel

end SchemaCompiler.Ddl
