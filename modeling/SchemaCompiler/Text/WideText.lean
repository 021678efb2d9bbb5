/-!
Text as JSON has it: beside characters it may hold halves of surrogate pairs, a high one or a low
one, whose other half is missing. Such text has no encoding. Text of characters alone is a string,
so no text comes in two forms.
-/

namespace SchemaCompiler

inductive Point where
  | char (c : Char)
  | high (offset : Fin 1024)
  | low (offset : Fin 1024)
  deriving DecidableEq, Repr

namespace Point

def code : Point → Nat
  | char c => c.toNat
  | high offset => 0xD800 + offset
  | low offset => 0xDC00 + offset

def ofUnit (unit : Nat) : Point :=
  if first : 0xD800 ≤ unit ∧ unit < 0xDC00 then high ⟨unit - 0xD800, by omega⟩
  else if second : 0xDC00 ≤ unit ∧ unit < 0xE000 then low ⟨unit - 0xDC00, by omega⟩
  else char (Char.ofNat unit)

def join (high low : Fin 1024) : Char := Char.ofNat (0x10000 + high * 0x400 + low)

def pairUp : List Point → List Point
  | high first :: low second :: rest => char (join first second) :: pairUp rest
  | point :: rest => point :: pairUp rest
  | [] => []

def isLow : Point → Bool
  | low _ => true
  | _ => false

theorem pairUp_cons {point : Point} {rest : List Point}
    (apart : ∀ first, point = high first → rest.head?.all (! ·.isLow)) :
    pairUp (point :: rest) = point :: pairUp rest := by
  rw [pairUp]
  rintro first second more rfl rfl
  simpa [isLow] using apart first rfl

theorem head_pairUp_isLow (points : List Point) :
    (pairUp points).head?.all (! ·.isLow) = points.head?.all (! ·.isLow) := by
  cases points with
  | nil => rfl
  | cons point rest =>
    by_cases pair : ∃ first second more, point = high first ∧ rest = low second :: more
    · obtain ⟨first, second, more, rfl, rfl⟩ := pair
      rfl
    · rw [pairUp_cons]
      · rfl
      · rintro first rfl
        cases rest with
        | nil => rfl
        | cons next more =>
          cases next with
          | low second => exact absurd ⟨first, second, more, rfl, rfl⟩ pair
          | _ => rfl

theorem pairUp_pairUp (points : List Point) : pairUp (pairUp points) = pairUp points := by
  fun_induction pairUp points with
  | case1 first second rest ih => rw [pairUp, ih]; simp
  | case2 point rest single ih =>
    rw [pairUp_cons, ih]
    rintro first rfl
    rw [head_pairUp_isLow]
    cases rest with
    | nil => rfl
    | cons next more =>
      cases next with
      | low second => exact (single first second more rfl rfl).elim
      | _ => rfl
  | case3 => rfl

def chars? : List Point → Option (List Char)
  | [] => some []
  | char c :: rest => (chars? rest).map (c :: ·)
  | _ :: _ => none

theorem chars?_char (chars : List Char) : chars? (chars.map char) = some chars := by
  induction chars with
  | nil => rfl
  | cons c rest ih => rw [List.map_cons, chars?, ih, Option.map_some]

end Point

structure BrokenText where
  points : List Point
  paired : Point.pairUp points = points
  broken : Point.chars? points = none
  deriving Repr

namespace BrokenText

theorem ext {a b : BrokenText} (h : a.points = b.points) : a = b := by
  cases a; cases b; cases h; rfl

instance : DecidableEq BrokenText := fun a b =>
  if h : a.points = b.points then isTrue (ext h)
  else isFalse fun same => h (congrArg points same)

end BrokenText

inductive WideText where
  | plain (text : String)
  | broken (text : BrokenText)
  deriving DecidableEq, Repr

namespace WideText

instance : Coe String WideText := ⟨plain⟩

def ofPoints (points : List Point) : WideText :=
  match halves : Point.chars? (Point.pairUp points) with
  | some chars => plain (String.ofList chars)
  | none => broken ⟨Point.pairUp points, Point.pairUp_pairUp points, halves⟩

def points : WideText → List Point
  | plain text => text.toList.map .char
  | broken text => text.points

def length : WideText → Nat
  | plain text => text.length
  | broken text => text.points.length

def isPlain : WideText → Bool
  | plain _ => true
  | broken _ => false

/-- The form in which messages and notes hold a text: halves are replaced. -/
def shown (text : WideText) : String :=
  String.ofList <| text.points.map fun
    | .char c => c
    | _ => '\ufffd'

end WideText

end SchemaCompiler
