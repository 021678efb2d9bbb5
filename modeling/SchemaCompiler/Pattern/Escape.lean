import SchemaCompiler.Pattern.Cursor

/-!
Escapes of a pattern, the groups that they can refer to, and sets, whose items are characters and
escapes.
-/

namespace SchemaCompiler.Pattern

open Text

/-- A table of the names that patterns can call characters by. -/
class CharacterNames where
  find? : String → Option Char

namespace Unnamed

scoped instance : CharacterNames := ⟨fun _ => none⟩

end Unnamed

namespace Reader

variable [CharacterNames]

/-! Escapes -/

def controlEscape? : Char → Option Nat
  | 'a' => some 7
  | 'b' => some 8
  | 'f' => some 12
  | 'n' => some 10
  | 'r' => some 13
  | 't' => some 9
  | 'v' => some 11
  | '\\' => some 92
  | _ => none

def kindEscape? : Char → Option SetItem
  | 'd' => some (.kind .digit false)
  | 'D' => some (.kind .digit true)
  | 's' => some (.kind .space false)
  | 'S' => some (.kind .space true)
  | 'w' => some (.kind .word false)
  | 'W' => some (.kind .word true)
  | _ => none

def anchorEscape? : Char → Option Anchor
  | 'A' => some .textStart
  | 'b' => some (.wordBoundary false)
  | 'B' => some (.wordBoundary true)
  | 'Z' => some .textEnd
  | _ => none

def hexEscape (letter : Char) (count : Nat) : Reader Nat := do
  let digits ← takeWhile isHex count
  let escape := '\\' :: letter :: digits
  if digits.length < count then failBack (.incompleteEscape (text escape)) escape.length
  else
    let code := numberIn 16 digits
    if 0x10FFFF < code then failBack (.badEscape (text escape)) escape.length
    else return code

def namedEscape : Reader Nat := do
  if ← accept '\x7b' then
    let found ← name '\x7d' "character name"
    match CharacterNames.find? (text found) with
    | some c => return c.toNat
    | none => failBack (.unknownCharacter (text found)) (found.length + 4)
  else failBack .noBrace 0

def octalEscape (digits : List Char) : Reader Nat := do
  let code := numberIn 8 digits
  if 0o377 < code then
    failBack (.octalTooLarge (text ('\\' :: digits))) (digits.length + 1)
  else return code

/-- The escapes that mean the same inside and outside of a set. -/
def commonEscape (c : Char) : Reader Nat := do
  if c == 'x' then hexEscape c 2
  else if c == 'u' then hexEscape c 4
  else if c == 'U' then hexEscape c 8
  else if c == 'N' then namedEscape
  else if isAsciiLetter c || isAsciiDigit c then failBack (.badEscape (text ['\\', c])) 2
  else return c.toNat

def setEscape (c : Char) : Reader SetItem := do
  match controlEscape? c with
  | some code => return .single code
  | none =>
    match kindEscape? c with
    | some item => return item
    | none =>
      if isOctal c then
        let more ← takeWhile isOctal 2
        return .single (← octalEscape (c :: more))
      else return .single (← commonEscape c)

/-! Groups -/

/-- The number of groups, the whole match counted as one. -/
def groupCount : Reader Nat := do
  return (← get).groups.length + 1

def groupWidth? (group : Nat) : Reader (Option (Nat × Nat)) := do
  if group == 0 then return none
  else return ((← get).groups[group - 1]?).bind id

/-- Inside a lookbehind only closed groups from before it may be referred to. -/
def checkLookbehind (group : Nat) : Reader Unit := do
  match (← get).lookbehind with
  | none => return
  | some outer =>
    if (← groupWidth? group).isNone then failBack .openGroup 0
    else if outer ≤ group then failBack .lookbehindGroup 0
    else return

def openGroup (groupName : Option (List Char)) : Reader Nat := do
  let state ← get
  let group := state.groups.length + 1
  match groupName with
  | none =>
    set { state with groups := state.groups ++ [none] }
    return group
  | some chars =>
    match state.names.lookup (text chars) with
    | some earlier =>
      failBack (.repeatedGroupName (text chars) group earlier) (chars.length + 1)
    | none =>
      set { state with
        groups := state.groups ++ [none], names := (text chars, group) :: state.names }
      return group

def closeGroup (group : Nat) (width : Nat × Nat) : Reader Unit :=
  modify fun state => { state with groups := state.groups.set (group - 1) (some width) }

def compareOf (flags : Flags) : Compare := ⟨flags.ignoreCase, flags.ascii⟩

def single (flags : Flags) (code : Nat) : Node :=
  .char (.oneOf false [.single code]) (compareOf flags)

def referTo (flags : Flags) (group offset : Nat) : Reader Node := do
  match ← groupWidth? group with
  | none => failBack .openGroup offset
  | some (least, greatest) =>
    checkLookbehind group
    return .backreference group least greatest (compareOf flags)

def groupReference (flags : Flags) (digits : List Char) : Reader Node := do
  let group := numberIn 10 digits
  if group < (← groupCount) then referTo flags group (digits.length + 1)
  else failBack (.unknownGroupNumber group) digits.length

/-- An escape of digits: three octal ones name a character, one or two others a group. -/
def digitEscape (flags : Flags) (c : Char) : Reader Node := do
  if c == '0' then
    let more ← takeWhile isOctal 2
    return single flags (numberIn 8 (c :: more))
  else
    match ← takeWhile isAsciiDigit 1 with
    | [d] =>
      if isOctal c && isOctal d then
        match ← takeWhile isOctal 1 with
        | [e] => return single flags (← octalEscape [c, d, e])
        | _ => groupReference flags [c, d]
      else groupReference flags [c, d]
    | _ => groupReference flags [c]

inductive Piece where
  | plain (node : Node)
  | anchor (node : Node)
  | quantified (node : Node)

def Piece.node : Piece → Node
  | plain node => node
  | anchor node => node
  | quantified node => node

def escape (flags : Flags) (c : Char) : Reader Piece := do
  match anchorEscape? c with
  | some anchor => return .anchor (.anchor anchor flags.ascii)
  | none =>
    match kindEscape? c with
    | some item => return .plain (.char (.oneOf false [item]) (compareOf flags))
    | none =>
      match controlEscape? c with
      | some code => return .plain (single flags code)
      | none =>
        if isAsciiDigit c then return .plain (← digitEscape flags c)
        else return .plain (single flags (← commonEscape c))

/-! Sets -/

def setItem (token : List Char) : Reader SetItem :=
  match token with
  | '\\' :: c :: _ => setEscape c
  | c :: _ => return .single c.toNat
  | [] => return .single 0

/-- The items of a set up to its closing bracket, which is an item itself when it comes first. -/
def setItems (start : Nat) (before : List SetItem) : (bound : Nat) → Reader (List SetItem)
  | 0 => failAt .unterminatedSet start
  | bound + 1 => do
    match ← take? with
    | none => failAt .unterminatedSet start
    | some first =>
      if first == [']'] && !before.isEmpty then return before
      else
        let item ← setItem first
        if ← accept '-' then
          match ← take? with
          | none => failAt .unterminatedSet start
          | some last =>
            if last == [']'] then return before ++ [item, .single 45]
            else
              let other ← setItem last
              match item, other with
              | .single low, .single high =>
                if high < low then
                  failBack (.badRange (text first) (text last)) (first.length + 1 + last.length)
                else setItems start (before ++ [.range low high]) bound
              | _, _ =>
                failBack (.badRange (text first) (text last)) (first.length + 1 + last.length)
        else setItems start (before ++ [item]) bound

def charSet (flags : Flags) (start : Nat) : Reader Node := do
  let negated ← accept '^'
  let items ← setItems start [] ((← remaining) + 1)
  return .char (.oneOf negated items) (compareOf flags)

end Reader

end SchemaCompiler.Pattern
