import SchemaCompiler.Proofs.Ddl.LineReading
import SchemaCompiler.Proofs.Ddl.NameParts

/-!
Written databases read back. The line that opens a table names it, every line of its body changes
the table as that line does by itself, and the closing line leaves the table as it is.
-/

namespace SchemaCompiler.Ddl

open Text

/-! Opening lines -/

theorem read_table_name_opening {title : String} (named : title ≠ "")
    (plain : ∀ c ∈ title.toList, c ≠ '\x60' ∧ isBlank c = false) (noDot : title ≠ ".") :
    readTableName (openingLine title) = .ok title := by
  have line : openingLine title =
      "CREATE TABLE ".toList ++ '\x60' :: (title.toList ++ '\x60' :: [' ', '(']) := by
    simp [openingLine, openingPieces, piecesText, Piece.text, keyword]
  have word : wordAt ('\x60' :: (title.toList ++ '\x60' :: [' ', '('])) =
      '\x60' :: (title.toList ++ ['\x60']) := by
    have solid := quoted_solid fun c member => (plain c member).2
    have parts := word_at_append solid [' ', '(']
    rw [word_at_blank (by decide), List.append_nil] at parts
    simpa using parts
  have letters : title.toList ≠ ['.'] := fun same => noDot (String.toList_inj.mp same)
  have unquoted : '\x60' ∉ title.toList := fun member => (plain _ member).1 rfl
  rw [line, read_table_name_iff _ _ (by decide +kernel) (by decide +kernel), word]
  exact ⟨named, name_in_name unquoted letters (unmarked_plain List.not_mem_nil)⟩

theorem opening_line_opens (title : String) : hasCreateTable false (openingLine title) = true := by
  have starts : startsCreateTable (openingLine title) = true := rfl
  obtain ⟨rest, shape⟩ : ∃ rest, openingLine title = 'C' :: rest := ⟨_, rfl⟩
  rw [shape] at starts ⊢
  rw [hasCreateTable, starts]
  rfl

theorem solid_opening (title : String) : Solid (openingLine title) := by
  constructor
  · intro c first
    have start : (openingLine title).head? = some 'C' := rfl
    rw [start] at first
    cases first
    decide
  · intro c last
    have parts : openingPieces title = [keyword "CREATE", .gap, keyword "TABLE", .gap,
        .name title.toList, .gap] ++ [.opening] := rfl
    have mark : piecesText [.opening] = ['('] := rfl
    rw [openingLine, parts, pieces_text_append, mark, List.getLast?_concat] at last
    cases last
    decide

/-! Steps and runs -/

/-- Reading the lines one after the other, with blanks around them trimmed, fails nowhere and
ends in the second reading. -/
def Reads (reading : Reading) (lines : List (List Char)) (next : Reading) : Prop :=
  ∀ number rest, (readLines reading number (lines ++ rest)).outcome =
    (readLines next (number + lines.length) rest).outcome

theorem reads_nil (reading : Reading) : Reads reading [] reading := fun _ _ => rfl

theorem reads_append {a b c : Reading} {front back : List (List Char)} (first : Reads a front b)
    (second : Reads b back c) : Reads a (front ++ back) c := by
  intro number rest
  rw [List.append_assoc, first, second, List.length_append, Nat.add_assoc]

theorem reads_line {reading next : Reading} {line : List Char} (solid : Solid line)
    (step : (advance reading line).failure = none ∧ (advance reading line).reading = next) :
    Reads reading [line] next := by
  intro number rest
  rw [List.singleton_append, readLines, trim_solid solid, step.1, ← step.2]
  rfl

variable {database : String} {before : List Table} {reading : Reading}

theorem opening_step {title : String} (between : Between database before reading)
    (fresh : title ∉ before.map Table.title) (named : title ≠ "")
    (plain : ∀ c ∈ title.toList, c ≠ '\x60' ∧ isBlank c = false) (noDot : title ≠ ".") :
    ∃ next, Reads reading [openingLine title] next ∧ Within database before { title } next := by
  have step := advance_opening reading (opening_line_opens title)
    (read_table_name_opening named plain noDot)
  have added := Catalog.put_last_new reading.database.tables ({ title } : Table)
    (by rw [between.tables]; exact fresh)
  rw [between.tables] at added
  exact ⟨_, reads_line (solid_opening title) step, rfl, between.title, added⟩

theorem table_within {t : Table} (within : Within database before t reading) :
    reading.database.table? t.title = some t :=
  Catalog.find_entry (by rw [within.tables]; simp)

theorem closing_step {t : Table} (within : Within database before t reading) :
    ∃ next, Reads reading [");".toList] next ∧ Between database (before ++ [t]) next := by
  have quiet : hasCreateTable false ");".toList = false := by decide +kernel
  have closes : closesTable ");".toList = true := by decide +kernel
  have solid : Solid ");".toList := by
    constructor
    · rintro c ⟨⟩
      decide
    · rintro c ⟨⟩
      decide
  have step := advance_closing quiet within.position (table_within within) closes
  exact ⟨_, reads_line solid step, rfl, within.title, within.tables⟩

/-- A line of a table's body that neither opens nor closes a table. -/
structure BodyLine (line : List Char) : Prop where
  unbroken : ∀ c ∈ line, isLineBreak c = false
  solid : Solid line
  quiet : hasCreateTable false line = false
  open_ : closesTable line = false
  present : line.isEmpty = false

theorem body_step {t after : Table} {line : List Char} (within : Within database before t reading)
    (body : BodyLine line) (effect : readTableLine line t = { table := after })
    (same : after.title = t.title) :
    ∃ next, Reads reading [line] next ∧ Within database before after next := by
  have step := advance_body body.quiet within.position (table_within within) body.open_
    body.present effect
  have updated : (reading.database.tables.put after).entries = before ++ [after] :=
    Catalog.put_last_at within.tables same.symm
  have inside : reading.position = .inside after.title := by rw [same, within.position]
  exact ⟨_, reads_line body.solid step, inside, within.title, updated⟩

/-! Bodies -/

/-- A line that changes one table into another, with or without a comma behind it. -/
structure Changes (line : List Piece) (t after : Table) : Prop where
  title : after.title = t.title
  body : ∀ tail, Ending tail → BodyLine (piecesText (line ++ tail))
  effect : ∀ tail, Ending tail →
    readTableLine (piecesText (line ++ tail)) t = { table := after }

/-- Lines that change a table one after the other. -/
inductive Rewrites : List (List Piece) → Table → Table → Prop
  | nothing (t : Table) : Rewrites [] t t
  | line {line : List Piece} {rest : List (List Piece)} {t after last : Table}
      (first : Changes line t after) (others : Rewrites rest after last) :
      Rewrites (line :: rest) t last

theorem rewrites_append {front back : List (List Piece)} {t after last : Table}
    (first : Rewrites front t after) (second : Rewrites back after last) :
    Rewrites (front ++ back) t last := by
  induction first with
  | nothing t => exact second
  | line change others ih => exact .line change (ih second)

theorem separated_body {lines : List (List Piece)} {t last : Table}
    (rewrites : Rewrites lines t last) :
    ∀ line ∈ separated lines, BodyLine (piecesText line) := by
  induction rewrites with
  | nothing t => simp [separated]
  | @line line rest t after last first others ih =>
      intro other member
      cases rest with
      | nil =>
          have single : other = line := by simpa [separated] using member
          have body := first.body [] (Or.inl rfl)
          rw [List.append_nil] at body
          exact single ▸ body
      | cons next more =>
          rcases List.mem_cons.mp member with rfl | later
          · exact first.body [.comma] (Or.inr rfl)
          · exact ih other later

/-- A body is read line by line into the table that it changes. -/
theorem body_run {lines : List (List Piece)} {t last : Table} (rewrites : Rewrites lines t last)
    (within : Within database before t reading) :
    ∃ next, Reads reading ((separated lines).map piecesText) next ∧
      Within database before last next := by
  -- Every line but the last one is followed by a comma.
  induction rewrites generalizing reading with
  | nothing t => exact ⟨reading, reads_nil reading, within⟩
  | @line line rest t after last first others ih =>
      cases rest with
      | nil =>
          have body := first.body [] (Or.inl rfl)
          have effect := first.effect [] (Or.inl rfl)
          rw [List.append_nil] at body effect
          obtain ⟨next, reads, inside⟩ := body_step within body effect first.title
          cases others
          exact ⟨next, reads, inside⟩
      | cons second more =>
          obtain ⟨middle, reads, inside⟩ := body_step within (first.body [.comma] (Or.inr rfl))
            (first.effect [.comma] (Or.inr rfl)) first.title
          obtain ⟨next, behind, final⟩ := ih inside
          exact ⟨next, reads_append reads behind, final⟩

theorem body_of_line {f : Field} {r : Remarks} {pieces : List Piece}
    (line : Line ("id" :: writtenTexts f r) pieces)
    (lines : ∀ text ∈ writtenTexts f r, ∀ c ∈ text.toList, isLineBreak c = false)
    (quiet : ∀ text ∈ writtenTexts f r, hasCreateTable false text.toList = false) :
    BodyLine (piecesText pieces) := by
  obtain ⟨_, opens, present⟩ := line_no_comment line
  have id : hasCreateTable false "id".toList = false := by decide +kernel
  have unbroken := unbroken_of_all (by decide +kernel : "id".toList.all (fun c => !isLineBreak c))
  refine ⟨line_unbroken line ?_, line_solid line, line_quiet line ?_, opens, present⟩
  · intro text member
    rcases List.mem_cons.mp member with rfl | among
    · exact unbroken
    · exact lines text among
  · intro text member
    rcases List.mem_cons.mp member with rfl | among
    · exact id
    · exact quiet text among

/-- A column before it is known which table it refers to. -/
def unreferred (f : Field) : Field := { f with foreign := none }

theorem column_changes {f : Field} {r : Remarks} {t : Table} (expressible : ExpressibleField f r)
    (length : ∀ n, f.characters = some n → 0 ≤ n)
    (quiet : ∀ text ∈ writtenTexts f r, hasCreateTable false text.toList = false)
    (fresh : f.title ∉ t.fields.titles) :
    Changes (columnPieces f r) t (t.add (unreferred f)) where
  title := rfl
  body _ ending :=
    body_of_line (column_line expressible.nameless length ending) expressible.lines quiet
  effect _ ending := read_table_line_column expressible.toSoundField expressible.nameless length
    expressible.length ending fresh

theorem foreign_changes {f : Field} {r : Remarks} {t : Table} {target : String}
    (expressible : ExpressibleField f r) (refers : f.foreign = some target)
    (quiet : ∀ text ∈ writtenTexts f r, hasCreateTable false text.toList = false)
    (known : f.title ∈ t.fields.titles) :
    Changes (foreignPieces f.title target) t (t.markForeign f.title target) where
  title := rfl
  body _ ending :=
    body_of_line (foreign_line expressible.nameless refers (expressible.target target refers)
      ending) expressible.lines quiet
  effect _ ending := read_table_line_foreign (r := r) expressible.lowered expressible.nameless
    refers (expressible.target target refers) ending known

/-- Columns are added in their order, all of them without the tables they refer to. -/
theorem columns_rewrite {remarks : Field → Remarks} (fields : List Field) (t : Table)
    (expressible : ∀ f ∈ fields, ExpressibleField f (remarks f))
    (length : ∀ f ∈ fields, ∀ n, f.characters = some n → 0 ≤ n)
    (quiet : ∀ f ∈ fields, ∀ text ∈ writtenTexts f (remarks f),
      hasCreateTable false text.toList = false)
    (distinct : ((t.fields.entries ++ fields).map Field.title).Nodup) :
    ∃ last, Rewrites (fields.map fun f => columnPieces f (remarks f)) t last ∧
      last.title = t.title ∧ last.fields.entries = t.fields.entries ++ fields.map unreferred := by
  induction fields generalizing t with
  | nil => exact ⟨t, .nothing t, rfl, by simp⟩
  | cons f rest ih =>
      have fresh : f.title ∉ t.fields.titles := Catalog.fresh_of_distinct distinct
      have change := column_changes (expressible f (by simp)) (length f (by simp))
        (quiet f (by simp)) fresh
      have added : (t.add (unreferred f)).fields.entries = t.fields.entries ++ [unreferred f] :=
        Catalog.put_new t.fields (unreferred f) fresh
      obtain ⟨last, rewrites, title, entries⟩ := ih (t.add (unreferred f))
        (fun g member => expressible g (List.mem_cons_of_mem f member))
        (fun g member => length g (List.mem_cons_of_mem f member))
        (fun g member => quiet g (List.mem_cons_of_mem f member))
        (by rw [added]; simpa [unreferred] using distinct)
      refine ⟨last, .line change rewrites, title, ?_⟩
      rw [entries, added, List.map_cons, List.append_assoc, List.singleton_append]

/-- Foreign key lines complete the columns that they name, one after the other. -/
theorem foreigns_rewrite {remarks : Field → Remarks} (fields : List Field) (t : Table)
    (done : List Field) (expressible : ∀ f ∈ fields, ExpressibleField f (remarks f))
    (quiet : ∀ f ∈ fields, ∀ text ∈ writtenTexts f (remarks f),
      hasCreateTable false text.toList = false)
    (shape : t.fields.entries = done ++ fields.map unreferred) :
    ∃ last, Rewrites (fields.filterMap fun f => f.foreign.map (foreignPieces f.title)) t last ∧
      last.title = t.title ∧ last.fields.entries = done ++ fields := by
  -- The columns that are done are complete, the others still wait for their tables.
  induction fields generalizing t done with
  | nil => exact ⟨t, .nothing t, rfl, by simpa using shape⟩
  | cons f rest ih =>
      have later := fun g member => expressible g (List.mem_cons_of_mem f member)
      have laterQuiet := fun g member => quiet g (List.mem_cons_of_mem f member)
      cases refers : f.foreign with
      | none =>
          have same : unreferred f = f := by rw [unreferred, ← refers]
          obtain ⟨last, rewrites, title, entries⟩ := ih t (done ++ [f]) later laterQuiet
            (by simpa [same] using shape)
          refine ⟨last, ?_, title, by simpa using entries⟩
          simpa [refers] using rewrites
      | some target =>
          have known : f.title ∈ t.fields.titles := by
            simp [Catalog.titles, shape, unreferred, Titled.title]
          have change := foreign_changes (expressible f (by simp)) refers (quiet f (by simp)) known
          have complete : { unreferred f with foreign := some target } = f := by
            rw [unreferred, ← refers]
          have marked : (t.markForeign f.title target).fields.entries =
              done ++ f :: rest.map unreferred := by
            rw [List.map_cons] at shape
            have changed := Catalog.modify_at shape (fun g => { g with foreign := some target })
              (fun _ same => same)
            rw [complete] at changed
            exact changed
          obtain ⟨last, rewrites, title, entries⟩ := ih (t.markForeign f.title target)
            (done ++ [f]) later laterQuiet (by simpa using marked)
          refine ⟨last, ?_, title, by simpa using entries⟩
          simpa [refers] using Rewrites.line change rewrites

/-- The body of a table rewrites the table without columns into the whole one. -/
theorem body_rewrites {t : Table} {remarks : Field → Remarks}
    (expressible : ExpressibleTable t remarks) (unmistakable : Unmistakable t remarks) :
    Rewrites (bodyLines t remarks) { title := t.title } t := by
  obtain ⟨middle, columns, title, entries⟩ := columns_rewrite t.fields.entries
    { title := t.title } expressible.fields unmistakable.length unmistakable.quiet
    t.fields.distinct
  obtain ⟨last, foreigns, same, complete⟩ := foreigns_rewrite t.fields.entries middle []
    expressible.fields unmistakable.quiet entries
  have whole : last = t := by
    obtain ⟨lastTitle, lastFields⟩ := last
    obtain ⟨ownTitle, ownFields⟩ := t
    have fields : lastFields = ownFields := Catalog.ext complete
    simp only at same title
    rw [fields, same, title]
  rw [whole] at foreigns
  exact rewrites_append columns foreigns

/-! Tables and databases -/

theorem table_run {t : Table} {remarks : Field → Remarks}
    (between : Between database before reading)
    (fresh : t.title ∉ before.map Table.title) (expressible : ExpressibleTable t remarks)
    (unmistakable : Unmistakable t remarks) :
    ∃ next, Reads reading (tableLines t remarks) next ∧ Between database (before ++ [t]) next := by
  obtain ⟨opened, opening, inside⟩ := opening_step between fresh expressible.named
    expressible.plain unmistakable.named
  obtain ⟨filled, body, complete⟩ := body_run (body_rewrites expressible unmistakable) inside
  obtain ⟨closed, closing, outside⟩ := closing_step complete
  exact ⟨closed, reads_append opening (reads_append body closing), outside⟩

theorem tables_run {remarks : Table → Field → Remarks} (tables : List Table)
    (between : Between database before reading)
    (distinct : ((before ++ tables).map Table.title).Nodup)
    (expressible : ∀ t ∈ tables, ExpressibleTable t (remarks t))
    (unmistakable : ∀ t ∈ tables, Unmistakable t (remarks t)) :
    ∃ next, Reads reading (tables.flatMap fun t => tableLines t (remarks t)) next ∧
      Between database (before ++ tables) next := by
  induction tables generalizing before reading with
  | nil => exact ⟨reading, reads_nil reading, by simpa using between⟩
  | cons t rest ih =>
      have fresh : t.title ∉ before.map Table.title := Catalog.fresh_of_distinct distinct
      obtain ⟨middle, first, behind⟩ := table_run between fresh (expressible t (by simp))
        (unmistakable t (by simp))
      obtain ⟨next, others, final⟩ := ih behind (by simpa using distinct)
        (fun u member => expressible u (List.mem_cons_of_mem t member))
        (fun u member => unmistakable u (List.mem_cons_of_mem t member))
      refine ⟨next, reads_append first others, ?_⟩
      simpa using final

theorem table_lines_unbroken {t : Table} {remarks : Field → Remarks}
    (expressible : ExpressibleTable t remarks) (unmistakable : Unmistakable t remarks) :
    ∀ line ∈ tableLines t remarks, ∀ c ∈ line, isLineBreak c = false := by
  intro line member
  simp only [tableLines, List.mem_cons, List.mem_append, List.mem_map, List.not_mem_nil,
    or_false] at member
  rcases member with rfl | ⟨pieces, among, rfl⟩ | rfl
  · intro c inside
    have create := unbroken_of_all
      (by decide +kernel : "CREATE".toList.all (fun c => !isLineBreak c))
    have table := unbroken_of_all
      (by decide +kernel : "TABLE".toList.all (fun c => !isLineBreak c))
    simp only [openingLine, openingPieces, keyword, pieces_text_cons, pieces_text_nil, Piece.text,
      List.mem_append, List.mem_cons, List.not_mem_nil, or_false] at inside
    rcases inside with letter | rfl | letter | rfl | (rfl | name | rfl) | rfl | rfl
    · exact create c letter
    · decide
    · exact table c letter
    · decide
    · decide
    · exact no_line_break (expressible.plain c name).2
    · decide
    · decide
    · decide
  · exact (separated_body (body_rewrites expressible unmistakable) pieces among).unbroken
  · exact unbroken_of_all (by decide +kernel)

/-- A database that is written out is read back as it was, with its tables and columns in their
order, unless one of its texts is mistaken for something else. -/
theorem parse_dump (db : Database) (remarks : Table → Field → Remarks)
    (expressible : Expressible db remarks)
    (unmistakable : ∀ t ∈ db.tables.entries, Unmistakable t (remarks t)) :
    parseSchema (dump db remarks) db.title = .ok db := by
  let lines := db.tables.entries.flatMap fun t => tableLines t (remarks t)
  have unbroken : ∀ line ∈ lines, ∀ c ∈ line, isLineBreak c = false := by
    intro line member
    obtain ⟨t, among, inside⟩ := List.mem_flatMap.mp member
    exact table_lines_unbroken (expressible t among) (unmistakable t among) line inside
  have split : splitLines (dump db remarks).toList = lines := by
    rw [dump, String.toList_ofList, ← List.flatMap_assoc]
    exact split_lines_joined unbroken
  have start : Between db.title [] ({ database := { title := db.title } } : Reading) :=
    ⟨rfl, rfl, rfl⟩
  obtain ⟨last, reads, outside⟩ := tables_run db.tables.entries start db.tables.distinct
    expressible unmistakable
  have whole : last.database = db := by
    obtain ⟨_, title, tables⟩ := outside
    have same : last.database.tables = db.tables := Catalog.ext tables
    cases found : last.database with
    | mk lastTitle lastTables =>
        rw [found] at title same
        simp only at title same
        rw [title, same]
  have outcome := reads 1 []
  rw [List.append_nil] at outcome
  rw [parseSchema, readSchema, split, outcome, readLines, outside.position, whole]

def choiceField (labels : List String) (target : Option String) : Field :=
  { title := "state", datatype := .enum, labels := some labels, foreign := target }

def lengthField (length : Int) : Field :=
  { title := "name", datatype := .string, characters := some length }

def oneTable (title : String) (fields : List Field) : Database :=
  { title := "shop", tables := Catalog.empty.putLast { title, fields := Catalog.ofList fields } }

/-- A label with an apostrophe, one with a comma and a parenthesis, and a comment that almost
opens a table. -/
theorem parse_dump_orders :
    parseSchema (dump (oneTable "orders" [choiceField ["it's", "a,b)"] (some "states")])
      fun _ _ => { comment := some "create (table" }) "shop" =
      .ok (oneTable "orders" [choiceField ["it's", "a,b)"] (some "states")]) :=
  parse_dump _ _ (by decide +kernel) (by decide +kernel)

/-- A label that holds the words that open a table, a table titled by a dot, and a length below
zero are written but not read back. -/
theorem mistaken_dumps :
    (Expressible (oneTable "t" [choiceField ["create table"] none]) (fun _ _ => {}) ∧
      parseSchema (dump (oneTable "t" [choiceField ["create table"] none]) fun _ _ => {}) "shop" ≠
        .ok (oneTable "t" [choiceField ["create table"] none])) ∧
    (Expressible (oneTable "." []) (fun _ _ => {}) ∧
      parseSchema (dump (oneTable "." []) fun _ _ => {}) "shop" ≠ .ok (oneTable "." [])) ∧
    Expressible (oneTable "t" [lengthField (-5)]) (fun _ _ => {}) ∧
      parseSchema (dump (oneTable "t" [lengthField (-5)]) fun _ _ => {}) "shop" ≠
        .ok (oneTable "t" [lengthField (-5)]) := by
  decide +kernel

end SchemaCompiler.Ddl
