import Mathlib.Data.List.Forall2
import SchemaCompiler.Text.WideText

/-!
Text with halves of pairs. A text is made of its own points again, and of all points that come to
them when halves that stand side by side are joined.
-/

namespace SchemaCompiler.WideText

open Point

theorem pair_up_chars (chars : List Char) : pairUp (chars.map char) = chars.map char := by
  induction chars with
  | nil => rfl
  | cons c rest ih =>
      rw [List.map_cons, pairUp_cons, ih]
      rintro first ⟨⟩

/-- No text has halves that could be joined. -/
theorem points_paired (text : WideText) : pairUp text.points = text.points := by
  cases text with
  | plain text => exact pair_up_chars text.toList
  | broken text => exact text.paired

theorem of_points_eq {points : List Point} {text : WideText}
    (joined : pairUp points = text.points) : ofPoints points = text := by
  rw [ofPoints.eq_def]
  split
  · next chars whole =>
    rw [joined] at whole
    cases text with
    | plain text =>
        rw [WideText.points, chars?_char, Option.some.injEq] at whole
        rw [← whole, String.ofList_toList]
    | broken text => cases whole.symm.trans text.broken
  · next halves =>
    cases text with
    | plain text =>
        rw [joined, WideText.points, chars?_char] at halves
        cases halves
    | broken text => exact congrArg broken (BrokenText.ext joined)

@[simp]
theorem shown_plain (text : String) : (plain text).shown = text := by
  simp [shown, points, Function.comp_def]

/-! Points spelled by halves -/

/-- A point stands for itself, and two halves for the character of their pair. -/
inductive Spells : List Point → Point → Prop
  | itself (point : Point) : Spells [point] point
  | pair (first second : Fin 1024) : Spells [high first, low second] (char (join first second))

theorem spells_head {parts : List Point} {point : Point} (spells : Spells parts point)
    (rest : List Point) (notLow : point.isLow = false) :
    (parts ++ rest).head?.all (! ·.isLow) = true := by
  cases spells with
  | itself => simp [notLow]
  | pair => rfl

theorem pair_up_spelled {parts : List (List Point)} {points : List Point}
    (spelled : List.Forall₂ Spells parts points) (paired : pairUp points = points) :
    pairUp parts.flatten = points := by
  induction spelled with
  | nil => rfl
  | @cons part point others rest spells behind ih =>
      -- A first half is in front of no second one, else the points would not be paired.
      have apart : ∀ first, point = high first → rest.head?.all (! ·.isLow) = true := by
        rintro first rfl
        cases rest with
        | nil => rfl
        | cons next more =>
            cases next with
            | low second =>
                rw [pairUp] at paired
                cases paired
            | char c => rfl
            | high second => rfl
      rw [pairUp_cons apart, List.cons.injEq] at paired
      have tail := ih paired.2
      cases spells with
      | pair first second =>
          rw [List.flatten_cons, List.cons_append, List.singleton_append, pairUp, tail]
      | itself =>
          rw [List.flatten_cons, List.singleton_append, pairUp_cons, tail]
          intro first same
          have follows := apart first same
          cases behind with
          | nil => rfl
          | @cons next later _ _ spellsNext _ =>
              refine spells_head spellsNext _ ?_
              simpa using follows

end SchemaCompiler.WideText
