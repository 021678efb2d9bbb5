import SchemaCompiler.Pattern.Basic
import SchemaCompiler.Pattern.Fault

/-!
The place in a pattern's text, and what has been found in front of it. The text is taken token by
token, an escape being a backslash with the character behind it; a backslash at the very end is
found as soon as it comes next.
-/

namespace SchemaCompiler.Pattern

open Text

structure Source where
  position : Nat
  rest : List Char

structure State where
  source : Source
  /-- For every group from 1 on its width, once it is closed. -/
  groups : List (Option (Nat × Nat)) := []
  names : List (String × Nat) := []
  /-- How many groups there were where the outermost open lookbehind began. -/
  lookbehind : Option Nat := none
  conditions : List (Nat × Nat) := []
  flags : Flags := {}

abbrev Reader := StateT State (Except Fault)

namespace Reader

def tokenOf : List Char → Option (List Char)
  | [] => none
  | '\\' :: c :: _ => some ['\\', c]
  | c :: _ => some [c]

def isLoneEscape (rest : List Char) : Bool := rest == ['\\']

def next? : Reader (Option (List Char)) := do
  return tokenOf (← get).source.rest

def place : Reader Nat := do
  return (← get).source.position

def failAt {α : Type} (reason : Reason) (position : Nat) : Reader α :=
  throw (.malformed reason (some position))

def failBack {α : Type} (reason : Reason) (offset : Nat) : Reader α := do
  failAt reason ((← place) - offset)

def take? : Reader (Option (List Char)) := do
  let state ← get
  match tokenOf state.source.rest with
  | none => return none
  | some token =>
    let rest := state.source.rest.drop token.length
    let position := state.source.position + token.length
    if isLoneEscape rest then failAt .escapeAtEnd position
    else
      set { state with source := ⟨position, rest⟩ }
      return some token

def accept (c : Char) : Reader Bool := do
  if (← next?) == some [c] then
    let _ ← take?
    return true
  else return false

def seek (source : Source) : Reader Unit := modify fun state => { state with source }

def text (token : List Char) : String := String.ofList token

def takeWhile (accepts : Char → Bool) : (count : Nat) → Reader (List Char)
  | 0 => return []
  | count + 1 => do
    match ← next? with
    | some [c] =>
      if accepts c then
        let _ ← take?
        return c :: (← takeWhile accepts count)
      else return []
    | _ => return []

def takeName (terminator : Char) (what : String) (before : List Char) :
    (bound : Nat) → Reader (List Char)
  | 0 => failBack (.noName what) 0
  | bound + 1 => do
    match ← take? with
    | none =>
      if before.isEmpty then failBack (.noName what) 0
      else failBack (.unterminatedName (String.singleton terminator)) before.length
    | some token =>
      if token == [terminator] then
        if before.isEmpty then failBack (.noName what) 1 else return before
      else takeName terminator what (before ++ token) bound

def remaining : Reader Nat := do
  return (← get).source.rest.length

def name (terminator : Char) (what : String) : Reader (List Char) := do
  takeName terminator what [] ((← remaining) + 1)

def isOctal (c : Char) : Bool := '0' ≤ c && c ≤ '7'

def isHex (c : Char) : Bool := (hexValue? c).isSome

def numberIn (base : Nat) (digits : List Char) : Nat :=
  digits.foldl (fun n c => n * base + (hexValue? c).getD 0) 0

end Reader

end SchemaCompiler.Pattern
