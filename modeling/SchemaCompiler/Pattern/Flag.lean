import SchemaCompiler.Pattern.Cursor

/-!
Flags of a pattern, for the whole of it or for one group, and the blanks and comments that one of
the flags allows.
-/

namespace SchemaCompiler.Pattern

open Text

namespace Reader

/-! Flags -/

inductive Flag where
  | ignoreCase
  | locale
  | multiline
  | dotAll
  | verbose
  | ascii
  | template
  | unicode
  deriving DecidableEq

def Flag.ofChar? : Char → Option Flag
  | 'i' => some ignoreCase
  | 'L' => some locale
  | 'm' => some multiline
  | 's' => some dotAll
  | 'x' => some verbose
  | 'a' => some ascii
  | 't' => some template
  | 'u' => some unicode
  | _ => none

def flagOf? : List Char → Option Flag
  | [c] => Flag.ofChar? c
  | _ => none

/-- Flags that choose the alphabet exclude one another. -/
def Flag.choosesAlphabet (flag : Flag) : Bool :=
  flag == .ascii || flag == .locale || flag == .unicode

def isLetterToken : List Char → Bool
  | [c] => isLetter c
  | _ => false

def flagsOn (before : List Flag) (token : List Char) : (bound : Nat) → Reader (List Flag × Char)
  | 0 => failBack .noFlagEnd 0
  | bound + 1 => do
    match flagOf? token with
    | none =>
      failBack (if isLetterToken token then .unknownFlag else .noFlagEnd) token.length
    | some flag =>
      if flag == .locale then failBack .localeFlag 0
      else if flag.choosesAlphabet && before.any (fun f => f.choosesAlphabet && f != flag) then
        failBack .alphabetFlags 0
      else
        let all := before ++ [flag]
        match ← take? with
        | none => failBack .noFlagEnd 0
        | some [')'] => return (all, ')')
        | some ['-'] => return (all, '-')
        | some [':'] => return (all, ':')
        | some more => flagsOn all more bound

def flagsOff (before : List Flag) (token : List Char) (wrong : Reason) :
    (bound : Nat) → Reader (List Flag)
  | 0 => failBack .noColon 0
  | bound + 1 => do
    match flagOf? token with
    | none => failBack (if isLetterToken token then .unknownFlag else wrong) token.length
    | some flag =>
      if flag.choosesAlphabet then failBack .alphabetFlagOff 0
      else
        let all := before ++ [flag]
        match ← take? with
        | none => failBack .noColon 0
        | some [':'] => return all
        | some more => flagsOff all more .noColon bound

def withFlag (value : Bool) (flags : Flags) : Flag → Flags
  | .ignoreCase => { flags with ignoreCase := value }
  | .multiline => { flags with multiline := value }
  | .dotAll => { flags with dotAll := value }
  | .verbose => { flags with verbose := value }
  | .ascii => { flags with ascii := value }
  | .template => { flags with template := value }
  | .unicode => { flags with unicode := value }
  | .locale => flags

def withinGroup (flags : Flags) (on off : List Flag) : Flags :=
  let cleared :=
    if on.any Flag.choosesAlphabet then { flags with ascii := false, unicode := false } else flags
  off.foldl (withFlag false) (on.foldl (withFlag true) cleared)

/-- Reads the flags of a group; nothing when they hold for the whole pattern. -/
def flagGroup (token : List Char) : Reader (Option (List Flag × List Flag)) := do
  let bound := (← remaining) + 1
  let (on, stop) ← if token == ['-'] then pure ([], '-') else flagsOn [] token bound
  if stop == ')' then
    modify fun state => { state with flags := on.foldl (withFlag true) state.flags }
    return none
  else if on.contains .template then failBack .globalFlagOn 1
  else
    let off ← if stop == '-' then do
        match ← take? with
        | none => failBack .noFlag 0
        | some first => flagsOff [] first .noFlag bound
      else pure []
    if off.contains .template then failBack .globalFlagOff 1
    else if on.any off.contains then failBack .contradictoryFlags 1
    else return some (on, off)

/-! Blanks and comments -/

def isPatternBlank (c : Char) : Bool := c == ' ' || (9 ≤ c.toNat && c.toNat ≤ 13)

def skipLine : (bound : Nat) → Reader Unit
  | 0 => return
  | bound + 1 => do
    match ← take? with
    | none => return
    | some token => if token == ['\n'] then return else skipLine bound

def skipComment (start : Nat) : (bound : Nat) → Reader Unit
  | 0 => failAt .unterminatedComment start
  | bound + 1 => do
    match ← take? with
    | none => failAt .unterminatedComment start
    | some token => if token == [')'] then return else skipComment start bound

end Reader

end SchemaCompiler.Pattern
