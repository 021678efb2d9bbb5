import SchemaCompiler.Pattern.Escape
import SchemaCompiler.Pattern.Flag

/-!
Reading the text of a pattern: quantifiers, conditions, groups and alternatives, and what is
checked of the whole. Recursion runs on a bound that the length of the text provides.
-/

namespace SchemaCompiler.Pattern

open Text

variable [CharacterNames]

namespace Reader

/-! Quantifiers -/

def maxNumberDigits : Nat := 4300

def repetitionCount (digits : List Char) : Reader Nat :=
  if maxNumberDigits < digits.length then throw .numberTooLong
  else
    let n := numberIn 10 digits
    if maxRepeat ≤ n then throw .repetitionTooLarge else return n

/-- The bounds between braces; nothing when the brace stands for itself. -/
def bracedBounds? (start : Source) : Reader (Option (Nat × Option Nat)) := do
  if (← next?) == some ['\x7d'] then return none
  else
    let low ← takeWhile isAsciiDigit (← remaining)
    let comma ← accept ','
    let high ← if comma then takeWhile isAsciiDigit (← remaining) else pure low
    if ← accept '\x7d' then
      let minimum ← if low.isEmpty then pure 0 else repetitionCount low
      if high.isEmpty then return some (minimum, none)
      else
        let maximum ← repetitionCount high
        if maximum < minimum then failAt .reversedBounds start.position
        else return some (minimum, some maximum)
    else
      seek start
      return none

def bounds? (c : Char) : Reader (Option (Nat × Option Nat)) := do
  if c == '?' then return some (0, some 1)
  else if c == '*' then return some (0, none)
  else if c == '+' then return some (1, none)
  else bracedBounds? (← get).source

/-- Quantifies the last piece. `start` is the place behind the quantifier's first character. -/
def quantify (flags : Flags) (start : Nat) (bounds : Nat × Option Nat) (pieces : List Piece) :
    Reader (List Piece) := do
  match pieces.getLast? with
  | none => failAt .nothingToRepeat (start - 1)
  | some (.anchor _) => failAt .nothingToRepeat (start - 1)
  | some (.quantified _) => failAt .multipleRepeat (start - 1)
  | some (.plain node) =>
    let mode ← do
      if ← accept '?' then pure Mode.lazy
      else if ← accept '+' then pure Mode.possessive
      else pure Mode.greedy
    let repeated := Node.repeated node bounds.1 bounds.2 mode flags.template
    return pieces.dropLast ++ [.quantified repeated]

/-! Conditions -/

/-- A whole number as it may be written in a condition: blanks around it, a sign, and single
underscores between its digits. -/
def readInteger? (chars : List Char) : Option Int :=
  let trimmed := trim chars
  let (negative, digits) := match trimmed with
    | '-' :: rest => (true, rest)
    | '+' :: rest => (false, rest)
    | rest => (false, rest)
  let parts := digits.splitOn '_'
  let kept := digits.filter (· != '_')
  if parts.all (fun part => !part.isEmpty && part.all isDecimalDigit) &&
      kept.length ≤ maxNumberDigits then
    let size : Int := decimalValue kept
    some (if negative then -size else size)
  else none

def maxGroups : Nat := 2147483647 / 2

def conditionGroup : Reader Nat := do
  let found ← name ')' "group name"
  let back := found.length + 1
  if isIdentifier found then
    match (← get).names.lookup (text found) with
    | none => failBack (.unknownGroupName (text found)) back
    | some group => return group
  else
    match readInteger? found with
    | none => failBack (.badGroupName (text found)) back
    | some n =>
      if n < 0 then failBack (.badGroupName (text found)) back
      else if n == 0 then failBack .groupZero back
      else if (maxGroups : Int) ≤ n then failBack (.unknownGroupNumber n.toNat) back
      else
        let position := (← place) - back
        let group := n.toNat
        modify fun state =>
          if (state.conditions.lookup group).isSome then state
          else { state with conditions := state.conditions ++ [(group, position)] }
        return group

inductive Opening where
  | capture (groupName : Option (List Char))
  | plain (flags : Flags)
  | atomic
  | look (ahead negated : Bool)
  | condition
  | reference (groupName : List Char)
  | comment
  | settings

def checkedName (terminator : Char) : Reader (List Char) := do
  let found ← name terminator "group name"
  if isIdentifier found then return found
  else failBack (.badGroupName (text found)) (found.length + 1)

def unknownExtension {α : Type} (before token : List Char) : Reader α :=
  failBack (.unknownExtension (text (before ++ token))) (before.length + token.length + 1)

def opening (flags : Flags) : Reader Opening := do
  match ← take? with
  | none => failBack .endOfPattern 0
  | some token =>
    match token with
    | ['P'] =>
      if ← accept '<' then return .capture (some (← checkedName '>'))
      else if ← accept '=' then return .reference (← checkedName ')')
      else
        match ← take? with
        | none => failBack .endOfPattern 0
        | some wrong => unknownExtension ['P'] wrong
    | [':'] => return .plain flags
    | ['#'] => return .comment
    | ['='] => return .look true false
    | ['!'] => return .look true true
    | ['<'] =>
      match ← take? with
      | none => failBack .endOfPattern 0
      | some ['='] => return .look false false
      | some ['!'] => return .look false true
      | some wrong => unknownExtension ['<'] wrong
    | ['('] => return .condition
    | ['>'] => return .atomic
    | _ =>
      if (flagOf? token).isSome || token == ['-'] then
        match ← flagGroup token with
        | none => return .settings
        | some (on, off) => return .plain (withinGroup flags on off)
      else unknownExtension [] token

inductive Enclosed where
  | node (node : Node)
  | nothing
  | settings

def closeParenthesis (start : Nat) : Reader Unit := do
  if ← accept ')' then return else failAt .unterminatedGroup start

def beginLookbehind : Reader (Option Nat) := do
  let state ← get
  if state.lookbehind.isNone then
    set { state with lookbehind := some (← groupCount) }
  return state.lookbehind

/-! Sequences and alternatives -/

mutual

/-- Alternatives. At the top the flags are those set for the whole pattern so far. -/
def alternatives (top : Bool) (flags : Flags) (isFirst : Bool) : (bound : Nat) → Reader Node
  | 0 => return .empty
  | bound + 1 => do
    let state ← get
    let flags := if top then state.flags else flags
    let node ← pieces (top && isFirst) flags [] bound
    if ← accept '|' then
      return .alt node (← alternatives top flags false bound)
    else return node

/-- Pieces up to the end of the alternative. `settable` tells whether flags for the whole pattern
may still be set. -/
def pieces (settable : Bool) (flags : Flags) (before : List Piece) : (bound : Nat) → Reader Node
  | 0 => return .sequence (before.map Piece.node)
  | bound + 1 => do
    let finished : Reader Node := return .sequence (before.map Piece.node)
    match ← next? with
    | none => finished
    | some token =>
      if token == ['|'] || token == [')'] then finished
      else
        let _ ← take?
        match token with
        | ['\\', c] =>
          pieces settable flags (before ++ [← escape flags c]) bound
        | [c] =>
          if flags.verbose && isPatternBlank c then pieces settable flags before bound
          else if flags.verbose && c == '#' then
            skipLine ((← remaining) + 1)
            pieces settable flags before bound
          else if c == '[' then
            let node ← charSet flags ((← place) - 1)
            pieces settable flags (before ++ [.plain node]) bound
          else if c == '*' || c == '+' || c == '?' || c == '\x7b' then
            let start ← place
            match ← bounds? c with
            | none => pieces settable flags (before ++ [.plain (single flags c.toNat)]) bound
            | some limits =>
              pieces settable flags (← quantify flags start limits before) bound
          else if c == '.' then
            pieces settable flags
              (before ++ [.plain (.char (.any flags.dotAll) (compareOf flags))]) bound
          else if c == '^' then
            let anchor := if flags.multiline then Anchor.lineStart else .textStart
            pieces settable flags (before ++ [.anchor (.anchor anchor flags.ascii)]) bound
          else if c == '$' then
            let anchor := if flags.multiline then Anchor.lineEnd else .beforeFinalBreak
            pieces settable flags (before ++ [.anchor (.anchor anchor flags.ascii)]) bound
          else if c == '(' then
            let start := (← place) - 1
            match ← group flags start bound with
            | .node node => pieces settable flags (before ++ [.plain node]) bound
            | .nothing => pieces settable flags before bound
            | .settings =>
              let state ← get
              if settable && before.isEmpty then pieces settable state.flags before bound
              else failAt .misplacedFlags start
          else pieces settable flags (before ++ [.plain (single flags c.toNat)]) bound
        | _ => finished

def group (flags : Flags) (start : Nat) : (bound : Nat) → Reader Enclosed
  | 0 => return .nothing
  | bound + 1 => do
    let kind ← if ← accept '?' then opening flags else pure (.capture none)
    match kind with
    | .settings => return .settings
    | .comment =>
      skipComment start ((← remaining) + 1)
      return .nothing
    | .reference groupName =>
      match (← get).names.lookup (text groupName) with
      | none => failBack (.unknownGroupName (text groupName)) (groupName.length + 1)
      | some index => return .node (← referTo flags index (groupName.length + 1))
    | .look true negated =>
      let body ← alternatives false flags false bound
      closeParenthesis start
      return .node (.lookahead negated body)
    | .look false negated =>
      let outer ← beginLookbehind
      let body ← alternatives false flags false bound
      if outer.isNone then modify fun state => { state with lookbehind := none }
      closeParenthesis start
      return .node (.lookbehind negated body)
    | .condition =>
      let index ← conditionGroup
      checkLookbehind index
      let whenSet ← pieces false flags [] bound
      let otherwise ← do
        if ← accept '|' then
          let node ← pieces false flags [] bound
          if (← next?) == some ['|'] then failBack .tooManyBranches 0
          else pure (some node)
        else pure none
      closeParenthesis start
      return .node (.conditional index whenSet otherwise)
    | .atomic =>
      let body ← alternatives false flags false bound
      closeParenthesis start
      return .node (.atomic body)
    | .plain inner =>
      let body ← alternatives false inner false bound
      closeParenthesis start
      return .node body
    | .capture groupName =>
      let index ← openGroup groupName
      let body ← alternatives false flags false bound
      closeParenthesis start
      closeGroup index body.width
      return .node (.group index body)

end

end Reader

/-! What is checked of a pattern once its text has been read -/

def Mode.operator : Mode → String
  | greedy => "MAX_REPEAT"
  | lazy => "MIN_REPEAT"
  | possessive => "POSSESSIVE_REPEAT"

def maxLookbehind : Nat := Nat.pow 2 32 - 1

/-- The first fault in a pattern that is none of its text. -/
def Node.fault? : Node → Option Reason
  | .seq a b => (a.fault?).or b.fault?
  | .alt a b => (a.fault?).or b.fault?
  | .repeated body _ _ mode template =>
    if template then some (.templateRepeat mode.operator) else body.fault?
  | .group _ body => body.fault?
  | .lookahead _ body => body.fault?
  | .lookbehind _ body =>
    let (least, greatest) := body.width
    if maxLookbehind < least then some .longLookbehind
    else if least != greatest then some .variableLookbehind
    else body.fault?
  | .atomic body => body.fault?
  | .conditional _ whenSet otherwise =>
    match otherwise with
    | none => whenSet.fault?
    | some other => (whenSet.fault?).or other.fault?
  | _ => none

def checkRead (node : Node) (state : State) : Except Fault Node :=
  if state.flags.ascii && state.flags.unicode then .error .incompatibleFlags
  else if !state.source.rest.isEmpty then
    .error (.malformed .unbalanced (some state.source.position))
  else match state.conditions.find? fun (group, _) => state.groups.length + 1 ≤ group with
    | some (group, position) => .error (.malformed (.unknownGroupNumber group) (some position))
    | none =>
      match node.fault? with
      | some reason => .error (.malformed reason none)
      | none => .ok node

def read (text : List Char) : Except Fault Node :=
  if Reader.isLoneEscape text then .error (.malformed .escapeAtEnd (some 0))
  else
    match (Reader.alternatives true {} true (4 * text.length + 8)).run { source := ⟨0, text⟩ } with
    | .error fault => .error fault
    | .ok (node, state) => checkRead node state

end SchemaCompiler.Pattern
