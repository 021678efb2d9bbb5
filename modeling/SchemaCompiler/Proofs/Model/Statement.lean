import SchemaCompiler.Proofs.Model.Expression
import SchemaCompiler.Proofs.Model.LiteralText

/-!
Statements of the source, each an attribute of a class or a column of a plain table. Whatever its
title, type, labels and target are, what was written of a column is read from its statement, if
only its literals denote what they are written for.
-/

namespace SchemaCompiler.Model

open Text

/-! Reading statements -/

/-- Whether a missing value is among the alternatives of a hint. -/
def allowsNone (hint : List Char) : Bool := ((parts '|' hint).map trim).contains "None".toList

/-- The hint of an attribute, and the arguments that state its column. -/
def mapped? (line : List Char) : Option (List Char × List (List Char)) :=
  match parts ':' line with
  | [_, statement] =>
    match parts '=' statement with
    | [typed, value] =>
      match applied? '[' ']' (trim typed), call? (trim value) with
      | some ("Mapped", hint), some ("mapped_column", arguments) => some (hint, arguments)
      | _, _ => none
    | _ => none
  | _ => none

/-- The arguments that state a column, and the hint of the attribute if it is one. -/
def statement? (form : Form) (text : List Char) :
    Option (Option (List Char) × List (List Char)) :=
  match form with
  | .mapped => (mapped? text).map fun (hint, arguments) => (some hint, arguments)
  | .plain =>
    match call? text with
    | some ("Column", arguments) => some (none, arguments)
    | _ => none

def target? (argument : List Char) : Option String :=
  match call? argument with
  | some ("ForeignKey", [target]) => literal? target
  | _ => none

/-- The column that a statement of the source states. -/
def column? (form : Form) (text : String) : Option Column :=
  match statement? form text.toList with
  | some (hint, title :: type :: options) => do
    return {
      name := ← literal? title
      type := ← type? type
      primaryKey := options.contains "primary_key=True".toList
      nullable := (hint.map allowsNone).getD (options.contains "nullable=True".toList)
      unique := options.contains "unique=True".toList
      autoincrement := options.contains "autoincrement=True".toList
      foreign := options.findSome? target? }
  | _ => none

/-! Hints -/

theorem labels_hint (labels : List String) :
    (ColumnType.enum labels).valueType.expression.toList =
      "Literal".toList ++ '[' :: [',', ' '].intercalate
        (labels.map fun (label : String) => (Json.quoted label).toList) ++ [']'] := by
  simp [ColumnType.valueType, quoted_labels_text]

theorem value_named (type : ColumnType) : isName type.valueType.expression.toList = true ∨
    type = .json ∨ ∃ labels, type = .enum labels := by
  cases type with
  | json => exact Or.inr (Or.inl rfl)
  | enum labels => exact Or.inr (Or.inr ⟨labels, rfl⟩)
  | _ => exact Or.inl (by simp only [ColumnType.valueType, ColumnType.builtin]; decide)

theorem json_hint : ColumnType.json.valueType.expression.toList =
    "dict".toList ++ '[' :: "str, Any".toList ++ [']'] := rfl

theorem passes_value (type : ColumnType) {mark : Char} {depth : Nat}
    (free : depth = 0 → mark ∈ [',', ':', '=', '|']) :
    Passes mark (.code depth) type.valueType.expression.toList (.code depth) := by
  rcases value_named type with named | rfl | ⟨labels, rfl⟩
  · exact passes_name named free
  · have inner : Passes mark (.code (depth + 1)) "str, Any".toList (.code (depth + 1)) :=
      passes_plain (by decide) fun zero => by cases zero
    have named : isName "dict".toList = true := rfl
    rw [json_hint]
    exact passes_applied rfl rfl named free inner
  · have named : isName "Literal".toList = true := rfl
    rw [labels_hint]
    exact passes_applied rfl rfl named free (passes_arguments (arguments_labels labels))

theorem value_trimmed (type : ColumnType) :
    trim type.valueType.expression.toList = type.valueType.expression.toList ∧
      type.valueType.expression.toList ≠ "None".toList := by
  cases type with
  | enum labels =>
      have text := labels_hint labels
      have ends := trim_ends (rfl : isBlank 'L' = false) (rfl : isBlank ']' = false)
        ("iteral".toList ++ '[' :: [',', ' '].intercalate
          (labels.map fun (label : String) => (Json.quoted label).toList))
      rw [text]
      exact ⟨by simpa using ends, by simp⟩
  | _ => simp only [ColumnType.valueType, ColumnType.builtin]; decide

theorem passes_hint (w : WrittenColumn) {mark : Char} {depth : Nat} :
    Passes mark (.code (depth + 1)) w.hint.toList (.code (depth + 1)) := by
  have value : Passes mark (.code (depth + 1)) w.type.valueType.expression.toList
      (.code (depth + 1)) := passes_value w.type fun zero => by cases zero
  have none : Passes mark (.code (depth + 1)) " | None".toList (.code (depth + 1)) :=
    passes_plain (by decide) fun zero => by cases zero
  unfold WrittenColumn.hint
  split
  · rw [String.toList_append]
    exact passes_append value none
  · exact value

theorem allows_none_hint (w : WrittenColumn) : allowsNone w.hint.toList = w.nullable := by
  have value : Passes '|' (.code 0) w.type.valueType.expression.toList (.code 0) :=
    passes_value w.type (by decide)
  obtain ⟨trimmed, named⟩ := value_trimmed w.type
  cases nullable : w.nullable with
  | true =>
      have blank : Passes '|' (.code 0) [' '] (.code 0) := passes_plain (by decide) (by decide)
      have none : parts '|' " None".toList = [" None".toList] :=
        parts_whole (passes_plain (by decide) (by decide))
      have text : w.hint.toList =
          (w.type.valueType.expression.toList ++ [' ']) ++ '|' :: " None".toList := by
        simp [WrittenColumn.hint, nullable]
      rw [allowsNone, text, parts_mark (passes_append value blank), none]
      have last : trim " None".toList = "None".toList := by decide
      simp only [List.map_cons, List.map_nil, last]
      simp
  | false =>
      rw [allowsNone, WrittenColumn.hint, nullable]
      simp only [Bool.false_eq_true, if_false]
      rw [parts_whole value, List.map_singleton, trimmed, List.contains_cons, List.contains_nil,
        Bool.or_false]
      exact beq_false_of_ne (Ne.symm named)

/-! Arguments -/

/-- Every literal of the column denotes what it was written for. -/
structure WrittenColumn.Legible (w : WrittenColumn) : Prop where
  title : literal? (doubleQuoted w.title).toList = some w.title
  labels : w.type.Legible
  target : ∀ target, w.foreign = some target →
    literal? (doubleQuoted target).toList = some target

/-- Titles and targets that need no escape, and labels of the basic plane, make a column legible. -/
theorem written_legible {w : WrittenColumn}
    (title : ∀ c ∈ w.title.toList, c ∉ ['"', '\\', '\n', '\r', '\x00'])
    (labels : ∀ labels, w.type = .enum labels →
      ∀ label ∈ labels, ∀ c ∈ label.toList, c.toNat < 0x10000)
    (target : ∀ target, w.foreign = some target →
      ∀ c ∈ target.toList, c ∉ ['"', '\\', '\n', '\r', '\x00']) : w.Legible where
  title := by
    rw [double_quoted_text]
    exact literal_plain title
  labels all same label member := literal_quoted (labels all same label member)
  target text known := by
    rw [double_quoted_text]
    exact literal_plain (target text known)

theorem argument_double_quoted {text : String}
    (legible : literal? (doubleQuoted text).toList = some text) :
    Argument (doubleQuoted text).toList := by
  rw [double_quoted_text] at legible ⊢
  exact argument_literal legible

def flagTexts (primaryKey autoincrement unique : Bool) : List (List Char) :=
  (if primaryKey then ["primary_key=True".toList] else []) ++
  (if autoincrement then ["autoincrement=True".toList] else []) ++
  (if unique then ["unique=True".toList] else [])

/-- Flags are told without brackets. -/
theorem plain_bare {text : List Char} (plain : text.all isPlain = true) : '(' ∉ text := by
  intro opening
  cases List.all_eq_true.mp plain _ opening

theorem flag_texts_contain : ∀ primaryKey autoincrement unique,
    (flagTexts primaryKey autoincrement unique).contains "primary_key=True".toList = primaryKey ∧
    (flagTexts primaryKey autoincrement unique).contains "autoincrement=True".toList =
      autoincrement ∧
    (flagTexts primaryKey autoincrement unique).contains "unique=True".toList = unique := by
  decide

theorem flag_texts_plain : ∀ primaryKey autoincrement unique,
    ∀ text ∈ flagTexts primaryKey autoincrement unique,
      text.all isPlain = true ∧ ',' ∉ text ∧ trim text = text ∧ text ≠ [] := by
  decide

def foreignTexts (foreign : Option String) : List (List Char) :=
  (foreign.map fun target => callText "ForeignKey".toList [(doubleQuoted target).toList]).toList

theorem class_arguments (w : WrittenColumn) : w.arguments.map String.toList =
    (doubleQuoted w.title).toList :: w.type.expression.toList ::
      (foreignTexts w.foreign ++ flagTexts w.primaryKey w.autoincrement w.unique) := by
  have flags : List.map String.toList ((if w.primaryKey then ["primary_key=True"] else []) ++
      (if w.autoincrement then ["autoincrement=True"] else []) ++
      (if w.unique then ["unique=True"] else [])) =
        flagTexts w.primaryKey w.autoincrement w.unique := by
    cases w.primaryKey <;> cases w.autoincrement <;> cases w.unique <;> rfl
  rw [← flags]
  cases known : w.foreign with
  | none => simp [WrittenColumn.arguments, known, foreignTexts]
  | some target => simp [WrittenColumn.arguments, known, foreignTexts, callText]

section Options

variable {w : WrittenColumn}

theorem argument_target (legible : w.Legible) {target : String} (known : w.foreign = some target) :
    ∀ text ∈ [(doubleQuoted target).toList], Argument text := by
  simpa using argument_double_quoted (legible.target target known)

theorem argument_foreign (legible : w.Legible) :
    ∀ text ∈ foreignTexts w.foreign, Argument text := by
  cases known : w.foreign with
  | none => simp [foreignTexts]
  | some target =>
      have named : isName "ForeignKey".toList = true := rfl
      simpa [foreignTexts] using argument_call named (argument_target legible known)

theorem arguments_class (legible : w.Legible) :
    ∀ text ∈ w.arguments.map String.toList, Argument text := by
  rw [class_arguments]
  intro text member
  simp only [List.mem_cons, List.mem_append] at member
  rcases member with rfl | rfl | foreign | flag
  · exact argument_double_quoted legible.title
  · exact argument_type w.type
  · exact argument_foreign legible text foreign
  · obtain ⟨plain, comma, trimmed, present⟩ := flag_texts_plain _ _ _ text flag
    exact argument_plain plain comma trimmed present

theorem options_contain (foreign : Option String) (flags : List (List Char)) {flag : List Char}
    (bare : '(' ∉ flag) : (foreignTexts foreign ++ flags).contains flag = flags.contains flag := by
  cases foreign with
  | none => rfl
  | some target =>
      have apart : flag ≠ callText "ForeignKey".toList [(doubleQuoted target).toList] := by
        rintro rfl
        exact bare (by simp [callText])
      rw [foreignTexts, Option.map_some, Option.toList_some, List.singleton_append,
        List.contains_cons, beq_false_of_ne apart, Bool.false_or]

theorem target_flag {flag : List Char} (bare : '(' ∉ flag) : target? flag = none := by
  rw [target?, call_absent bare]

theorem target_options (legible : w.Legible) {flags : List (List Char)}
    (bare : ∀ flag ∈ flags, '(' ∉ flag) :
    (foreignTexts w.foreign ++ flags).findSome? target? = w.foreign := by
  have none : flags.findSome? target? = none :=
    List.findSome?_eq_none_iff.mpr fun flag member => target_flag (bare flag member)
  cases known : w.foreign with
  | none => simpa [foreignTexts] using none
  | some target =>
      have named : isName "ForeignKey".toList = true := rfl
      have read : target? (callText "ForeignKey".toList [(doubleQuoted target).toList]) =
          some target := by
        rw [target?, call_read named (argument_target legible known)]
        simpa using legible.target target known
      rw [foreignTexts, Option.map_some, Option.toList_some, List.singleton_append,
        List.findSome?_cons, read]

end Options

/-! Statements -/

theorem snake_case_word (name : String) :
    ∀ c ∈ (Naming.snakeCase name).toList, isWordChar c = true := by
  have plain : ∀ c ∈ (lowerFrom false (Naming.splitCapitals name.toList)).map
      (fun c => if isWordChar c then c else '_'), isWordChar c = true := by
    intro c member
    obtain ⟨d, _, rfl⟩ := List.mem_map.mp member
    split
    · assumption
    · decide
  have score : isWordChar '_' = true := by decide
  intro c member
  simp only [Naming.snakeCase] at member
  split at member
  · simp only [String.toList_append, String.toList_ofList, List.mem_append] at member
    rcases member with inner | last
    · exact plain c inner
    · rw [List.mem_singleton.mp last]
      exact score
  · split at member
    · simp only [String.toList_append, String.toList_ofList, List.mem_append] at member
      rcases member with first | inner
      · rw [List.mem_singleton.mp first]
        exact score
      · exact plain c inner
    · rw [String.toList_ofList] at member
      exact plain c member

theorem passes_space {mark : Char} {depth : Nat} (free : depth = 0 → mark ∈ [',', ':', '=', '|']) :
    Passes mark (.code depth) [' '] (.code depth) := by
  refine passes_plain (by decide) fun zero member => ?_
  have separates := free zero
  rw [List.mem_singleton.mp member] at separates
  exact absurd separates (by decide)

def typedText (hint : List Char) : List Char :=
  ' ' :: ("Mapped".toList ++ '[' :: hint ++ [']']) ++ [' ']

def valueText (arguments : List (List Char)) : List Char :=
  ' ' :: callText "mapped_column".toList arguments

def attributeText (name hint : List Char) (arguments : List (List Char)) : List Char :=
  ("    ".toList ++ name) ++ ':' :: (typedText hint ++ '=' :: valueText arguments)

theorem class_line_text (w : WrittenColumn) : w.classLine.toList =
    attributeText (Naming.snakeCase w.title).toList w.hint.toList
      (w.arguments.map String.toList) := by
  simp [WrittenColumn.classLine, attributeText, typedText, valueText, callText, toString]

section Attributes

variable {name hint : List Char} {arguments : List (List Char)}

theorem passes_typed {mark : Char} (separates : mark ∈ [',', ':', '=', '|'])
    (hinted : Passes mark (.code 1) hint (.code 1)) :
    Passes mark (.code 0) (typedText hint) (.code 0) := by
  have named : isName "Mapped".toList = true := rfl
  have space : Passes mark (.code 0) [' '] (.code 0) := passes_space fun _ => separates
  exact passes_append
    (passes_append space (passes_applied rfl rfl named (fun _ => separates) hinted)) space

theorem typed_read (hint : List Char) :
    applied? '[' ']' (trim (typedText hint)) = some ("Mapped", hint) := by
  have left : trim (typedText hint) = "Mapped".toList ++ '[' :: hint ++ [']'] := by
    have text : typedText hint =
        ' ' :: ('M' :: ("apped".toList ++ '[' :: hint) ++ [']'] ++ [' ']) := by
      simp [typedText]
    rw [text, trim_space, trim, trim_left_solid (by rintro c ⟨⟩; rfl), trimRight]
    simp [isBlank]
  rw [left, applied_read (by decide)]
  simp

theorem passes_value_text {mark : Char} (separates : mark ∈ [',', ':', '=', '|'])
    (each : ∀ text ∈ arguments, Argument text) :
    Passes mark (.code 0) (valueText arguments) (.code 0) := by
  have named : isName "mapped_column".toList = true := rfl
  exact passes_append (passes_space fun _ => separates)
    (passes_applied rfl rfl named (fun _ => separates) (passes_arguments each))

theorem value_text_read (each : ∀ text ∈ arguments, Argument text) :
    call? (trim (valueText arguments)) = some ("mapped_column", arguments) := by
  have named : isName "mapped_column".toList = true := rfl
  rw [valueText, trim_space, trim_call named, call_read named each]
  simp

theorem attribute_read (word : ∀ c ∈ name, isWordChar c = true)
    (hinted : ∀ mark, Passes mark (.code 1) hint (.code 1))
    (each : ∀ text ∈ arguments, Argument text) :
    mapped? (attributeText name hint arguments) = some (hint, arguments) := by
  have front : Passes ':' (.code 0) ("    ".toList ++ name) (.code 0) := by
    refine passes_append (passes_plain (by decide) (by decide)) (passes_plain ?_ ?_)
    · exact List.all_eq_true.mpr fun c member => (class_plain (by decide) (word c member)).1
    · exact fun _ member => (class_plain (by decide) (word _ member)).2 (by decide)
  have equals : Passes ':' (.code 0) ['='] (.code 0) := passes_plain (by decide) (by decide)
  have statement : Passes ':' (.code 0) (typedText hint ++ '=' :: valueText arguments)
      (.code 0) :=
    passes_append (passes_typed (by decide) (hinted ':'))
      (passes_append equals (passes_value_text (by decide) each))
  have halves : parts '=' (typedText hint ++ '=' :: valueText arguments) =
      [typedText hint, valueText arguments] := by
    rw [parts_mark (passes_typed (by decide) (hinted '=')),
      parts_whole (passes_value_text (by decide) each)]
  rw [mapped?, attributeText, parts_mark front, parts_whole statement]
  simp only [halves, typed_read, value_text_read each]

end Attributes

theorem mapped_read {w : WrittenColumn} (legible : w.Legible) :
    mapped? w.classLine.toList = some (w.hint.toList, w.arguments.map String.toList) := by
  rw [class_line_text, attribute_read (snake_case_word w.title) (fun _ => passes_hint w)
    (arguments_class legible)]

/-- The column that a class states, all that is written told. -/
theorem class_line_read {w : WrittenColumn} (legible : w.Legible) :
    column? .mapped w.classLine = some {
      name := w.title
      type := w.type.told
      primaryKey := w.primaryKey
      nullable := w.nullable
      unique := w.unique
      autoincrement := w.autoincrement
      foreign := w.foreign } := by
  obtain ⟨primaryKey, autoincrement, unique⟩ :=
    flag_texts_contain w.primaryKey w.autoincrement w.unique
  have bare : ∀ flag ∈ flagTexts w.primaryKey w.autoincrement w.unique, '(' ∉ flag :=
    fun flag member => plain_bare (flag_texts_plain _ _ _ flag member).1
  have options {flag : List Char} (noCall : '(' ∉ flag) :=
    options_contain w.foreign (flagTexts w.primaryKey w.autoincrement w.unique) noCall
  rw [column?, statement?, mapped_read legible, class_arguments]
  simp only [Option.map_some, Option.getD_some, allows_none_hint, legible.title,
    type_read legible.labels, target_options legible bare,
    options (by decide : '(' ∉ "primary_key=True".toList), primaryKey,
    options (by decide : '(' ∉ "autoincrement=True".toList), autoincrement,
    options (by decide : '(' ∉ "unique=True".toList), unique]
  rfl

def nullableText (nullable : Bool) : List Char :=
  if nullable then "nullable=True".toList else "nullable=False".toList

theorem nullable_text_plain : ∀ nullable,
    (nullableText nullable).all isPlain = true ∧ ',' ∉ nullableText nullable ∧
      trim (nullableText nullable) = nullableText nullable ∧ nullableText nullable ≠ [] := by
  decide

theorem nullable_text_contain : ∀ nullable,
    [nullableText nullable].contains "primary_key=True".toList = false ∧
    [nullableText nullable].contains "autoincrement=True".toList = false ∧
    [nullableText nullable].contains "unique=True".toList = false ∧
    [nullableText nullable].contains "nullable=True".toList = nullable := by
  decide

theorem plain_text_chars (w : WrittenColumn) : w.plainText.toList =
    callText "Column".toList [(doubleQuoted w.title).toList, w.type.expression.toList,
      nullableText w.nullable] := by
  cases nullable : w.nullable <;>
    simp [WrittenColumn.plainText, nullable, nullableText, callText]

/-- The column that a plain table states: nothing but its title, its type and whether it may be
missing. -/
theorem plain_text_read {w : WrittenColumn} (legible : w.Legible) :
    column? .plain w.plainText = some {
      name := w.title
      type := w.type.told
      primaryKey := false
      nullable := w.nullable
      unique := false
      autoincrement := false
      foreign := none } := by
  have named : isName "Column".toList = true := rfl
  obtain ⟨plain, comma, trimmed, present⟩ := nullable_text_plain w.nullable
  obtain ⟨primaryKey, autoincrement, unique, nullable⟩ := nullable_text_contain w.nullable
  have each : ∀ text ∈ [(doubleQuoted w.title).toList, w.type.expression.toList,
      nullableText w.nullable], Argument text := by
    simp [argument_double_quoted legible.title, argument_type w.type,
      argument_plain plain comma trimmed present]
  have target : [nullableText w.nullable].findSome? target? = none := by
    simp [target_flag (plain_bare plain)]
  rw [column?, statement?, plain_text_chars, call_read named each]
  simp only [String.ofList_toList, legible.title, type_read legible.labels, Option.map_none,
    Option.getD_none, primaryKey, autoincrement, unique, nullable, target]
  rfl

end SchemaCompiler.Model
