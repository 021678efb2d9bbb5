import SchemaCompiler.Model.Source
import SchemaCompiler.Proofs.Json.Integer
import SchemaCompiler.Proofs.Model.Literal
import SchemaCompiler.Proofs.Text.Cutting

/-!
Expressions of the source, read from their text. A mark separates only where no bracket is open
and no literal holds it, so calls give back the arguments that they were written with.
-/

namespace SchemaCompiler.Model

open Text

/-- Where a scan stands: so many brackets deep, within a literal there or behind a backslash of
one. -/
inductive Place where
  | code (depth : Nat)
  | literal (depth : Nat)
  | escaped (depth : Nat)
  deriving DecidableEq

def isOpening (c : Char) : Bool := c == '(' || c == '[' || c == '\x7b'

def isClosing (c : Char) : Bool := c == ')' || c == ']' || c == '\x7d'

def Place.next : Place → Char → Place
  | .code depth, c =>
    if c == '"' then .literal depth
    else if isOpening c then .code (depth + 1)
    else if isClosing c then .code (depth - 1)
    else .code depth
  | .literal depth, c =>
    if c == '"' then .code depth else if c == '\\' then .escaped depth else .literal depth
  | .escaped depth, _ => .literal depth

def attach (front : List Char) : List (List Char) → List (List Char)
  | [] => [front]
  | part :: parts => (front ++ part) :: parts

/-- The parts between the marks that stand outside all brackets and literals. -/
def cutOutside (mark : Char) : Place → List Char → List (List Char)
  | _, [] => [[]]
  | place, c :: rest =>
    if place = .code 0 ∧ c = mark then [] :: cutOutside mark place rest
    else attach [c] (cutOutside mark (place.next c) rest)

def parts (mark : Char) (text : List Char) : List (List Char) := cutOutside mark (.code 0) text

/-- What is applied, and what stands in the brackets behind it. -/
def applied? (opening closing : Char) (text : List Char) : Option (String × List Char) :=
  match cutAt? [opening] text with
  | some (front, back) =>
    if back.getLast? == some closing then some (String.ofList front, back.dropLast) else none
  | none => none

def arguments (list : List Char) : List (List Char) :=
  if list.isEmpty then [] else (parts ',' list).map trim

def call? (text : List Char) : Option (String × List (List Char)) :=
  (applied? '(' ')' text).map fun (callee, list) => (callee, arguments list)

def natural? (digits : List Char) : Option Nat :=
  if !digits.isEmpty && digits.all isAsciiDigit then some (decimalValue digits) else none

def integer? : List Char → Option Int
  | '-' :: digits => (natural? digits).map fun n => -(n : Int)
  | digits => (natural? digits).map fun n => (n : Int)

def bareTypes : List (String × ColumnType) := [
  ("String", .string none),
  ("LargeBinary", .largeBinary none),
  ("JSON", .json),
  ("BigInteger", .bigInteger),
  ("Integer", .integer),
  ("SmallInteger", .smallInteger),
  ("Double", .double),
  ("Float", .float),
  ("Boolean", .boolean)]

/-- The column type that an expression denotes. -/
def type? (text : List Char) : Option ColumnType :=
  match call? text with
  | none => bareTypes.lookup (String.ofList text)
  | some ("String", [length]) => (integer? length).map fun n => .string (some n)
  | some ("LargeBinary", [length]) => (integer? length).map fun n => .largeBinary (some n)
  | some ("Enum", labels) => (labels.mapM literal?).map .enum
  | some _ => none

/-! Scanning over a text -/

section Scanning

variable {mark : Char} {depth : Nat}

theorem attach_attach (front middle : List Char) (parts : List (List Char)) :
    attach front (attach middle parts) = attach (front ++ middle) parts := by
  cases parts <;> simp [attach]

/-- A scan goes over the text without meeting the mark outside. -/
def Passes (mark : Char) (before : Place) (text : List Char) (after : Place) : Prop :=
  ∀ rest, cutOutside mark before (text ++ rest) = attach text (cutOutside mark after rest)

theorem passes_nil (place : Place) : Passes mark place [] place := by
  intro rest
  cases rest with
  | nil => rfl
  | cons c more =>
      simp only [List.nil_append]
      rw [cutOutside]
      split
      · rfl
      · cases cutOutside mark (place.next c) more <;> rfl

theorem passes_append {before middle after : Place} {front back : List Char}
    (first : Passes mark before front middle) (second : Passes mark middle back after) :
    Passes mark before (front ++ back) after := by
  intro rest
  rw [List.append_assoc, first, second, attach_attach]

theorem passes_cons {before after : Place} {c : Char} {text : List Char}
    (apart : ¬ (before = .code 0 ∧ c = mark)) (later : Passes mark (before.next c) text after) :
    Passes mark before (c :: text) after := by
  intro rest
  rw [List.cons_append, cutOutside, if_neg apart, later, attach_attach]
  rfl

/-- Neither a quote nor a bracket. -/
def isPlain (c : Char) : Bool := c != '"' && !isOpening c && !isClosing c

/-- Quotes, brackets and separators. -/
def specialChars : List Char :=
  ['"', '(', '[', '\x7b', ')', ']', '\x7d', ',', ':', '=', '|']

theorem class_plain {p : Char → Bool} (none : specialChars.all (fun d => !p d) = true) {c : Char}
    (member : p c = true) : isPlain c = true ∧ c ∉ [',', ':', '=', '|'] := by
  have apart : ∀ d ∈ specialChars, c ≠ d := by
    rintro d special rfl
    have outside := List.all_eq_true.mp none _ special
    rw [member] at outside
    cases outside
  simp only [specialChars, List.forall_mem_cons] at apart
  simp [isPlain, isOpening, isClosing, apart]

theorem passes_plain {text : List Char} (plain : text.all isPlain = true)
    (free : depth = 0 → mark ∉ text) : Passes mark (.code depth) text (.code depth) := by
  induction text with
  | nil => exact passes_nil _
  | cons c rest ih =>
      obtain ⟨head, others⟩ := (Bool.and_eq_true _ _).mp plain
      have tail := ih others fun zero member => free zero (List.mem_cons_of_mem c member)
      simp only [isPlain, Bool.and_eq_true, bne_iff_ne, ne_eq, Bool.not_eq_true'] at head
      have stays : (Place.code depth).next c = .code depth := by simp [Place.next, head]
      refine passes_cons ?_ (by rwa [stays])
      rintro ⟨same, rfl⟩
      cases same
      exact free rfl (by simp)

theorem passes_content {escaped : Bool} {text content : List Char}
    (closed : literalContent? escaped text = some (content, [])) :
    Passes mark (if escaped then .escaped depth else .literal depth) text (.code depth) := by
  induction text generalizing escaped content with
  | nil => cases escaped <;> cases closed
  | cons c rest ih =>
      refine passes_cons (by cases escaped <;> simp) ?_
      cases escaped with
      | true =>
          obtain ⟨⟨more, _⟩, later, same⟩ := Option.map_eq_some_iff.mp closed
          cases same
          exact ih later
      | false =>
          rw [literalContent?] at closed
          split at closed
          · next quote =>
            cases closed
            simpa [Place.next, quote] using passes_nil (.code depth)
          · next inner =>
            obtain ⟨⟨more, _⟩, later, same⟩ := Option.map_eq_some_iff.mp closed
            cases same
            simpa [Place.next, inner] using ih later

/-- A literal hides what it holds. -/
theorem passes_closed {text content : List Char}
    (closed : literalContent? false text = some (content, [])) (free : depth = 0 → mark ≠ '"') :
    Passes mark (.code depth) ('"' :: text) (.code depth) := by
  refine passes_cons ?_ (passes_content closed)
  rintro ⟨same, rfl⟩
  cases same
  exact free rfl rfl

theorem passes_literal {text : List Char} {denoted : String}
    (literal : literal? text = some denoted) (free : depth = 0 → mark ≠ '"') :
    Passes mark (.code depth) text (.code depth) := by
  unfold literal? at literal
  split at literal
  · split at literal
    · next content closed => exact passes_closed closed free
    · cases literal
  · cases literal

theorem passes_quoted (text : String) (free : depth = 0 → mark ≠ '"') :
    Passes mark (.code depth) (Json.quoted text).toList (.code depth) := by
  rw [Json.quoted_chars]
  exact passes_closed (content_inside (inside_escaped .ascii text.toList) []) free

/-- Brackets hide what stands between them. -/
theorem passes_brackets {opening closing : Char} (opens : isOpening opening = true)
    (closes : isClosing closing = true) {text : List Char}
    (inner : Passes mark (.code (depth + 1)) text (.code (depth + 1)))
    (free : depth = 0 → mark ≠ opening) :
    Passes mark (.code depth) (opening :: text ++ [closing]) (.code depth) := by
  have deeper : (Place.code depth).next opening = .code (depth + 1) := by
    have quote : opening ≠ '"' := by
      rintro rfl
      cases opens
    simp [Place.next, quote, opens]
  have back : (Place.code (depth + 1)).next closing = .code depth := by
    have quote : closing ≠ '"' := by
      rintro rfl
      cases closes
    have notOpening : isOpening closing = false := by
      simp only [isClosing, Bool.or_eq_true, beq_iff_eq] at closes
      rcases closes with (rfl | rfl) | rfl <;> rfl
    simp [Place.next, quote, notOpening, closes]
  refine passes_cons ?_ ?_
  · rintro ⟨same, rfl⟩
    cases same
    exact free rfl rfl
  · rw [deeper]
    refine passes_append inner (passes_cons ?_ ?_)
    · rintro ⟨same, -⟩
      cases same
    · rw [back]
      exact passes_nil _

theorem passes_joined {gap : List Char} (gaps : Passes mark (.code depth) gap (.code depth))
    {texts : List (List Char)}
    (each : ∀ text ∈ texts, Passes mark (.code depth) text (.code depth)) :
    Passes mark (.code depth) (gap.intercalate texts) (.code depth) := by
  induction texts with
  | nil => exact passes_nil _
  | cons text rest ih =>
      have head := each text (by simp)
      have tail := ih fun other member => each other (List.mem_cons_of_mem text member)
      cases rest with
      | nil => simpa using head
      | cons next more =>
          rw [List.intercalate_cons_cons]
          exact passes_append (passes_append head gaps) tail

end Scanning

/-! Parts -/

theorem parts_mark {mark : Char} {front : List Char}
    (passes : Passes mark (.code 0) front (.code 0)) (back : List Char) :
    parts mark (front ++ mark :: back) = front :: parts mark back := by
  rw [parts, passes, cutOutside, if_pos ⟨rfl, rfl⟩]
  simp [attach, parts]

theorem parts_whole {mark : Char} {text : List Char}
    (passes : Passes mark (.code 0) text (.code 0)) : parts mark text = [text] := by
  have whole := passes []
  rw [List.append_nil] at whole
  rw [parts, whole]
  simp [cutOutside, attach]

/-! Names and arguments -/

def isNameLetter (c : Char) : Bool := isAsciiLetter c || c == '_'

/-- The names that are applied and that types have. -/
def isName (text : List Char) : Bool := !text.isEmpty && text.all isNameLetter

theorem name_letter_solid {c : Char} (letter : isNameLetter c = true) : isBlank c = false := by
  have range : 65 ≤ c.toNat ∧ c.toNat ≤ 122 := by
    simp only [isNameLetter, isAsciiLetter, isAsciiUpper, isAsciiLower, Bool.or_eq_true,
      Bool.and_eq_true, decide_eq_true_eq, beq_iff_eq, Char.le_def,
      UInt32.le_iff_toNat_le] at letter
    rcases letter with (⟨low, high⟩ | ⟨low, high⟩) | rfl
    · exact ⟨low, Nat.le_trans high (by decide)⟩
    · exact ⟨Nat.le_trans (by decide) low, high⟩
    · decide
  simp only [isBlank, Bool.or_eq_false_iff, Bool.and_eq_false_iff, decide_eq_false_iff_not,
    beq_eq_false_iff_ne]
  omega

section Names

variable {name : List Char}

theorem name_letters (named : isName name = true) : ∀ c ∈ name, isNameLetter c = true := by
  simp only [isName, Bool.and_eq_true, List.all_eq_true] at named
  exact named.2

theorem name_present (named : isName name = true) : name ≠ [] := by
  rintro rfl
  cases named

theorem name_plain (named : isName name = true) :
    ∀ c ∈ name, isPlain c = true ∧ c ∉ [',', ':', '=', '|'] :=
  fun c member => class_plain (by decide) (name_letters named c member)

theorem name_bare (named : isName name = true) : '(' ∉ name := by
  intro member
  cases name_letters named _ member

end Names

/-- An argument stands alone: it shows no comma outside brackets and literals, and among brackets
no mark at all. -/
structure Argument (text : List Char) : Prop where
  passes : ∀ {mark depth}, (depth = 0 → mark = ',') → Passes mark (.code depth) text (.code depth)
  trimmed : trim text = text
  present : text ≠ []

theorem argument_plain {text : List Char} (plain : text.all isPlain = true) (comma : ',' ∉ text)
    (trimmed : trim text = text) (present : text ≠ []) : Argument text where
  passes free := passes_plain plain fun zero => by rwa [free zero]
  trimmed := trimmed
  present := present

/-- Characters that are neither special nor blank make an argument. -/
theorem argument_solid {text : List Char} (present : text ≠ [])
    (solid : ∀ c ∈ text, (isPlain c = true ∧ c ∉ [',', ':', '=', '|']) ∧ isBlank c = false) :
    Argument text := by
  refine argument_plain ?_ ?_ (trim_solid ⟨?_, ?_⟩) present
  · exact List.all_eq_true.mpr fun c member => (solid c member).1.1
  · exact fun member => (solid _ member).1.2 (by decide)
  · exact fun c first => (solid c (List.mem_of_mem_head? first)).2
  · exact fun c last => (solid c (List.mem_of_mem_getLast? last)).2

theorem argument_name {name : List Char} (named : isName name = true) : Argument name :=
  argument_solid (name_present named) fun c member =>
    ⟨name_plain named c member, name_letter_solid (name_letters named c member)⟩

theorem trim_ends {first last : Char} (front : isBlank first = false) (back : isBlank last = false)
    (text : List Char) : trim (first :: text ++ [last]) = first :: text ++ [last] := by
  refine trim_solid ⟨?_, ?_⟩
  · rintro c ⟨⟩
    exact front
  · intro c same
    rw [List.getLast?_concat] at same
    cases same
    exact back

theorem trim_space (text : List Char) : trim (' ' :: text) = trim text := by
  simp [trim, trimLeft, isBlank]

theorem argument_literal {text : List Char} {denoted : String}
    (literal : literal? ('"' :: text ++ ['"']) = some denoted) :
    Argument ('"' :: text ++ ['"']) where
  passes free := passes_literal literal fun zero => by
    rw [free zero]
    decide
  trimmed := trim_ends rfl rfl text
  present := by simp

theorem argument_quoted (text : String) : Argument (Json.quoted text).toList where
  passes free := passes_quoted text fun zero => by
    rw [free zero]
    decide
  trimmed := by
    rw [Json.quoted_chars]
    exact trim_ends rfl rfl _
  present := by simp [Json.quoted_chars]

/-- The text of a call with arguments. -/
def callText (name : List Char) (texts : List (List Char)) : List Char :=
  name ++ '(' :: [',', ' '].intercalate texts ++ [')']

theorem passes_arguments {mark : Char} {depth : Nat} {texts : List (List Char)}
    (each : ∀ text ∈ texts, Argument text) :
    Passes mark (.code (depth + 1)) ([',', ' '].intercalate texts) (.code (depth + 1)) :=
  passes_joined (passes_plain (by decide) fun zero => by cases zero)
    fun text member => (each text member).passes fun zero => by cases zero

theorem passes_name {mark : Char} {depth : Nat} {name : List Char} (named : isName name = true)
    (free : depth = 0 → mark ∈ [',', ':', '=', '|']) :
    Passes mark (.code depth) name (.code depth) :=
  passes_plain (List.all_eq_true.mpr fun c member => (name_plain named c member).1)
    fun zero member => (name_plain named _ member).2 (free zero)

theorem passes_applied {mark opening closing : Char} {depth : Nat} {name text : List Char}
    (opens : isOpening opening = true) (closes : isClosing closing = true)
    (named : isName name = true) (free : depth = 0 → mark ∈ [',', ':', '=', '|'])
    (inner : Passes mark (.code (depth + 1)) text (.code (depth + 1))) :
    Passes mark (.code depth) (name ++ opening :: text ++ [closing]) (.code depth) := by
  have apart : depth = 0 → mark ≠ opening := by
    rintro zero rfl
    have separates := free zero
    simp only [List.mem_cons, List.not_mem_nil, or_false] at separates
    rcases separates with rfl | rfl | rfl | rfl <;> cases opens
  rw [List.append_assoc]
  exact passes_append (passes_name named free) (passes_brackets opens closes inner apart)

theorem trim_call {name : List Char} (named : isName name = true) (texts : List (List Char)) :
    trim (callText name texts) = callText name texts := by
  obtain ⟨first, more, rfl⟩ := List.exists_cons_of_ne_nil (name_present named)
  have front := name_letter_solid (name_letters named first (by simp))
  have ends := trim_ends front (rfl : isBlank ')' = false)
    (more ++ '(' :: [',', ' '].intercalate texts)
  simpa [callText] using ends

theorem argument_call {name : List Char} (named : isName name = true) {texts : List (List Char)}
    (each : ∀ text ∈ texts, Argument text) : Argument (callText name texts) where
  passes free := passes_applied rfl rfl named (fun zero => by simp [free zero])
    (passes_arguments each)
  trimmed := trim_call named texts
  present := by simp [callText]

theorem parts_joined {first : List Char} {rest : List (List Char)}
    (each : ∀ text ∈ first :: rest, Argument text) :
    parts ',' ([',', ' '].intercalate (first :: rest)) = first :: rest.map (' ' :: ·) := by
  induction rest generalizing first with
  | nil => simpa using parts_whole ((each first (by simp)).passes fun _ => rfl)
  | cons next more ih =>
      have blank : Passes ',' (.code 0) [' '] (.code 0) := passes_plain (by decide) (by decide)
      have spaced := blank ([',', ' '].intercalate (next :: more))
      have tail := ih fun text member => each text (List.mem_cons_of_mem first member)
      rw [parts] at tail
      rw [tail] at spaced
      rw [List.intercalate_cons_cons, List.append_assoc]
      simp only [List.cons_append, List.nil_append]
      rw [parts_mark ((each first (by simp)).passes fun _ => rfl), parts]
      simpa [attach] using spaced

theorem arguments_joined {texts : List (List Char)} (each : ∀ text ∈ texts, Argument text) :
    arguments ([',', ' '].intercalate texts) = texts := by
  cases texts with
  | nil => rfl
  | cons first rest =>
      have filled : ([',', ' '].intercalate (first :: rest)).isEmpty = false := by
        have present := (each first (by simp)).present
        obtain ⟨c, more, rfl⟩ := List.exists_cons_of_ne_nil present
        cases rest <;> simp
      have others : rest.map (trim ∘ (' ' :: ·)) = rest.map id :=
        List.map_congr_left fun text member =>
          (trim_space text).trans (each text (List.mem_cons_of_mem first member)).trimmed
      rw [arguments, filled, parts_joined each]
      simp only [Bool.false_eq_true, if_false, List.map_cons, List.map_map]
      rw [(each first (by simp)).trimmed, others, List.map_id]

/-! Calls -/

theorem applied_read {opening closing : Char} {name : List Char} (bare : opening ∉ name)
    (list : List Char) :
    applied? opening closing (name ++ opening :: list ++ [closing]) =
      some (String.ofList name, list) := by
  simp [applied?, cut_at_first bare]

theorem call_read {name : List Char} (named : isName name = true) {texts : List (List Char)}
    (each : ∀ text ∈ texts, Argument text) :
    call? (callText name texts) = some (String.ofList name, texts) := by
  rw [call?, callText, applied_read (name_bare named)]
  simp [arguments_joined each]

theorem call_absent {text : List Char} (bare : '(' ∉ text) : call? text = none := by
  simp [call?, applied?, cut_at_none bare]

/-! Numbers -/

theorem natural_to_digits (n : Nat) : natural? (Nat.toDigits 10 n) = some n := by
  have ascii : (Nat.toDigits 10 n).all isAsciiDigit = true :=
    List.all_eq_true.mpr (to_digits_ascii n)
  have present : (Nat.toDigits 10 n).isEmpty = false := by simp [Nat.toDigits_ne_nil]
  simp [natural?, ascii, present, decimal_value_to_digits]

theorem integer_text_value (n : Int) : integer? (Json.integerText n) = some n := by
  cases n with
  | ofNat m =>
      have digits := natural_to_digits m
      rw [Int.ofNat_eq_natCast, Json.integer_text_nat]
      unfold integer?
      split
      · next minus =>
        have ascii := to_digits_ascii m '-' (by simp [minus])
        cases ascii
      · rw [digits]
        rfl
  | negSucc m =>
      have text : Json.integerText (Int.negSucc m) = '-' :: Nat.toDigits 10 (m + 1) :=
        Json.integer_text_neg m
      rw [text, integer?, natural_to_digits]
      rfl

theorem argument_integer (n : Int) : Argument (Json.integerText n) := by
  obtain ⟨c, more, text, _⟩ := Json.integer_text_head n
  refine argument_solid (by simp [text]) fun d member => ?_
  rcases Json.integer_text_chars n d member with rfl | digit
  · decide
  · exact ⟨class_plain (by decide) digit, ascii_digit_solid digit⟩

/-! Types -/

/-- The type as its expression tells it: a length of zero is not told. -/
def ColumnType.told : ColumnType → ColumnType
  | .string (some 0) => .string none
  | .largeBinary (some 0) => .largeBinary none
  | type => type

/-- Every label is denoted by its literal. -/
def ColumnType.Legible (type : ColumnType) : Prop :=
  ∀ labels, type = .enum labels → ∀ label ∈ labels, literal? (Json.quoted label).toList = some label

theorem with_length_text (name : String) {length : Int} (present : length ≠ 0) :
    (ColumnType.withLength name (some length)).toList =
      callText name.toList [Json.integerText length] := by
  simp [ColumnType.withLength, present, Json.integerText, callText, toString]

theorem quoted_labels_text (labels : List String) :
    (ColumnType.quotedLabels labels).toList =
      [',', ' '].intercalate (labels.map fun (label : String) => (Json.quoted label).toList) := by
  simp [ColumnType.quotedLabels, Function.comp_def]

theorem enum_text (labels : List String) : (ColumnType.enum labels).expression.toList =
    callText "Enum".toList (labels.map fun (label : String) => (Json.quoted label).toList) := by
  simp [ColumnType.expression, ColumnType.className, quoted_labels_text, callText]

theorem arguments_labels (labels : List String) :
    ∀ text ∈ labels.map fun (label : String) => (Json.quoted label).toList, Argument text := by
  simpa using fun label _ => argument_quoted label

theorem argument_with_length (name : String) (named : isName name.toList = true)
    (length : Option Int) : Argument (ColumnType.withLength name length).toList := by
  cases length with
  | none => exact argument_name named
  | some n =>
      by_cases zero : n = 0
      · subst zero
        exact argument_name named
      · rw [with_length_text name zero]
        exact argument_call named (by simpa using argument_integer n)

theorem argument_type (type : ColumnType) : Argument type.expression.toList := by
  cases type with
  | string length => exact argument_with_length "String" rfl length
  | largeBinary length => exact argument_with_length "LargeBinary" rfl length
  | enum labels =>
      rw [enum_text]
      exact argument_call rfl (arguments_labels labels)
  | _ => exact argument_name rfl

theorem labels_read {labels : List String}
    (legible : ∀ label ∈ labels, literal? (Json.quoted label).toList = some label) :
    (labels.map fun (label : String) => (Json.quoted label).toList).mapM literal? =
      some labels := by
  induction labels with
  | nil => rfl
  | cons label rest ih =>
      have tail := ih fun other member => legible other (List.mem_cons_of_mem label member)
      simp [List.mapM_cons, legible label (by simp), tail]

theorem call_with_length (name : String) (named : isName name.toList = true) {length : Int}
    (present : length ≠ 0) :
    call? (ColumnType.withLength name (some length)).toList =
      some (name, [Json.integerText length]) := by
  rw [with_length_text name present, call_read named (by simpa using argument_integer length)]
  simp

/-- The expression of a type is read as what it tells. -/
theorem type_read {type : ColumnType} (legible : type.Legible) :
    type? type.expression.toList = some type.told := by
  cases type with
  | string length =>
      cases length with
      | none => rfl
      | some n =>
          by_cases zero : n = 0
          · subst zero
            rfl
          · have call := call_with_length "String" rfl zero
            rw [ColumnType.expression, ColumnType.className, type?, call]
            simp [integer_text_value, ColumnType.told, zero]
  | largeBinary length =>
      cases length with
      | none => rfl
      | some n =>
          by_cases zero : n = 0
          · subst zero
            rfl
          · have call := call_with_length "LargeBinary" rfl zero
            rw [ColumnType.expression, ColumnType.className, type?, call]
            simp [integer_text_value, ColumnType.told, zero]
  | enum labels =>
      rw [enum_text, type?, call_read rfl (arguments_labels labels)]
      simp [labels_read (legible labels rfl), ColumnType.told]
  | _ => rfl

end SchemaCompiler.Model
