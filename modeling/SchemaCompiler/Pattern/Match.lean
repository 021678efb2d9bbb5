import SchemaCompiler.Pattern.Reader

/-!
Matching a whole text against a pattern, by trying alternatives in order and going back. A node
is run with what is to be matched behind it, and the answer is the first state in which
everything has matched.
-/

namespace SchemaCompiler.Pattern

open Text

/-- Where groups began and ended. The text before the current place is held in reverse. -/
structure Matching where
  before : List Char
  rest : List Char
  starts : List (Nat × Nat) := []
  stops : List (Nat × Nat) := []

namespace Matching

def position (m : Matching) : Nat := m.before.length

def span? (m : Matching) (group : Nat) : Option (Nat × Nat) := do
  let start ← m.starts.lookup group
  let stop ← m.stops.lookup group
  if stop < start then none else some (start, stop)

def markStart (group : Nat) (m : Matching) : Matching :=
  { m with starts := (group, m.position) :: m.starts }

def markStop (group : Nat) (m : Matching) : Matching :=
  { m with stops := (group, m.position) :: m.stops }

def back? (m : Matching) : Nat → Option Matching
  | 0 => some m
  | n + 1 =>
    match m.before with
    | [] => none
    | c :: before => back? { m with before, rest := c :: m.rest } n

def isWordAt (ascii : Bool) (c : Option Char) : Bool :=
  match c with
  | some c => CharKind.word.holds ascii c
  | none => false

/-- No word boundary, and no other place either, is found in an empty text. -/
def holdsAt (m : Matching) (ascii : Bool) : Anchor → Bool
  | .textStart => m.before.isEmpty
  | .textEnd => m.rest.isEmpty
  | .beforeFinalBreak => m.rest.isEmpty || m.rest == ['\n']
  | .lineStart => m.before.isEmpty || m.before.head? == some '\n'
  | .lineEnd => m.rest.isEmpty || m.rest.head? == some '\n'
  | .wordBoundary negated =>
    if m.before.isEmpty && m.rest.isEmpty then false
    else (isWordAt ascii m.before.head? != isWordAt ascii m.rest.head?) != negated

def takeText? (compare : Compare) : List Char → Matching → Option Matching
  | [], m => some m
  | c :: text, m =>
    match m.rest with
    | [] => none
    | d :: rest =>
      if compare.same c d then takeText? compare text { m with before := d :: m.before, rest }
      else none

def textBetween (m : Matching) (start stop : Nat) : List Char :=
  ((m.before.reverse ++ m.rest).drop start).take (stop - start)

end Matching

abbrev Continuation := Matching → Option Matching

/-- Repeats a body that is run by `body`. An iteration beyond the least number is only begun where
the last such one did not begin, so that empty ones come to an end. -/
def repeatBody (body : Continuation → Continuation) (maximum : Option Nat) (mode : Mode)
    (tail : Continuation) : (bound minimum count : Nat) → (lastStart : Option Nat) → Continuation
  | 0, _, _, _, _ => none
  | bound + 1, minimum, count, lastStart, m =>
    let again (last : Option Nat) : Option Matching :=
      body (repeatBody body maximum mode tail bound minimum (count + 1) last) m
    if count < minimum then again lastStart
    else
      let mayGoOn := (match maximum with
        | some most => count < most
        | none => true) && lastStart != some m.position
      match mode with
      | .lazy =>
        match tail m with
        | some found => some found
        | none => if mayGoOn then again (some m.position) else none
      | _ =>
        if mayGoOn then
          match again (some m.position) with
          | some found => some found
          | none => tail m
        else tail m

def repeatFirst (body : Continuation → Continuation) (maximum : Option Nat) :
    (bound minimum count : Nat) → (lastStart : Option Nat) → Matching → Option Matching
  | 0, _, _, _, _ => none
  | bound + 1, minimum, count, lastStart, m =>
    if count < minimum then
      (body some m).bind (repeatFirst body maximum bound minimum (count + 1) lastStart)
    else
      let mayGoOn := (match maximum with
        | some most => count < most
        | none => true) && lastStart != some m.position
      if mayGoOn then
        match body some m with
        | some next => repeatFirst body maximum bound minimum (count + 1) (some m.position) next
        | none => some m
      else some m

/-- Iterations that a repetition can come to: the least number, and one for each character. -/
def iterationBound (minimum : Nat) (m : Matching) : Nat := minimum + m.rest.length + 3

namespace Node

def run : Node → Continuation → Continuation
  | empty, tail, m => tail m
  | char test compare, tail, m =>
    match m.rest with
    | [] => none
    | c :: rest =>
      if test.holds compare c then tail { m with before := c :: m.before, rest } else none
  | anchor a ascii, tail, m => if m.holdsAt ascii a then tail m else none
  | seq a b, tail, m => a.run (b.run tail) m
  | alt a b, tail, m =>
    match a.run tail m with
    | some found => some found
    | none => b.run tail m
  | repeated body minimum maximum mode _, tail, m =>
    let bound := iterationBound minimum m
    match mode with
    | .possessive => (repeatFirst body.run maximum bound minimum 0 none m).bind tail
    | _ => repeatBody body.run maximum mode tail bound minimum 0 none m
  | group index body, tail, m =>
    body.run (fun inner => tail (inner.markStop index)) (m.markStart index)
  | backreference index _ _ compare, tail, m =>
    match m.span? index with
    | none => none
    | some (start, stop) => (Matching.takeText? compare (m.textBetween start stop) m).bind tail
  | lookahead negated body, tail, m =>
    match body.run some m with
    | some inner =>
      if negated then none else tail { inner with before := m.before, rest := m.rest }
    | none => if negated then tail m else none
  | lookbehind negated body, tail, m =>
    match (m.back? body.width.1).bind (body.run some) with
    | some inner =>
      if negated then none else tail { inner with before := m.before, rest := m.rest }
    | none => if negated then tail m else none
  | atomic body, tail, m => (body.run some m).bind tail
  | conditional index whenSet otherwise, tail, m =>
    if (m.span? index).isSome then whenSet.run tail m
    else match otherwise with
      | some other => other.run tail m
      | none => tail m

end Node

def atEnd (m : Matching) : Option Matching := if m.rest.isEmpty then some m else none

def Node.matchesAll (node : Node) (text : List Char) : Bool :=
  (node.run atEnd { before := [], rest := text }).isSome

def fullMatch [CharacterNames] (pattern text : List Char) : Except Fault Bool :=
  (read pattern).map (·.matchesAll text)

end SchemaCompiler.Pattern
