import SchemaCompiler.Text.Lines
import SchemaCompiler.Text.Quoted

/-!
What can be wrong with the text of a pattern.
-/

namespace SchemaCompiler.Pattern

open Text

inductive Reason where
  | escapeAtEnd
  | badEscape (escape : String)
  | incompleteEscape (escape : String)
  | octalTooLarge (escape : String)
  | noBrace
  | unknownCharacter (name : String)
  | noName (what : String)
  | unterminatedName (terminator : String)
  | openGroup
  | lookbehindGroup
  | unknownGroupNumber (group : Nat)
  | unterminatedSet
  | badRange (first last : String)
  | reversedBounds
  | nothingToRepeat
  | multipleRepeat
  | endOfPattern
  | badGroupName (name : String)
  | unknownGroupName (name : String)
  | repeatedGroupName (name : String) (group earlier : Nat)
  | unknownExtension (text : String)
  | unterminatedComment
  | unterminatedGroup
  | groupZero
  | tooManyBranches
  | misplacedFlags
  | unbalanced
  | localeFlag
  | alphabetFlags
  | noFlagEnd
  | unknownFlag
  | noFlag
  | noColon
  | globalFlagOn
  | globalFlagOff
  | alphabetFlagOff
  | contradictoryFlags
  | variableLookbehind
  | longLookbehind
  | templateRepeat (operator : String)
  deriving DecidableEq, Repr

def Reason.message : Reason → String
  | .escapeAtEnd => "bad escape (end of pattern)"
  | .badEscape escape => s!"bad escape {escape}"
  | .incompleteEscape escape => s!"incomplete escape {escape}"
  | .octalTooLarge escape => s!"octal escape value {escape} outside of range 0-0o377"
  | .noBrace => "missing \x7b"
  | .unknownCharacter name => s!"undefined character name {showQuoted name}"
  | .noName what => s!"missing {what}"
  | .unterminatedName terminator => s!"missing {terminator}, unterminated name"
  | .openGroup => "cannot refer to an open group"
  | .lookbehindGroup => "cannot refer to group defined in the same lookbehind subpattern"
  | .unknownGroupNumber group => s!"invalid group reference {group}"
  | .unterminatedSet => "unterminated character set"
  | .badRange first last => s!"bad character range {first}-{last}"
  | .reversedBounds => "min repeat greater than max repeat"
  | .nothingToRepeat => "nothing to repeat"
  | .multipleRepeat => "multiple repeat"
  | .endOfPattern => "unexpected end of pattern"
  | .badGroupName name => s!"bad character in group name {showQuoted name}"
  | .unknownGroupName name => s!"unknown group name {showQuoted name}"
  | .repeatedGroupName name group earlier =>
    s!"redefinition of group name {showQuoted name} as group {group}; was group {earlier}"
  | .unknownExtension text => s!"unknown extension ?{text}"
  | .unterminatedComment => "missing ), unterminated comment"
  | .unterminatedGroup => "missing ), unterminated subpattern"
  | .groupZero => "bad group number"
  | .tooManyBranches => "conditional backref with more than two branches"
  | .misplacedFlags => "global flags not at the start of the expression"
  | .unbalanced => "unbalanced parenthesis"
  | .localeFlag => "bad inline flags: cannot use 'L' flag with a str pattern"
  | .alphabetFlags => "bad inline flags: flags 'a', 'u' and 'L' are incompatible"
  | .noFlagEnd => "missing -, : or )"
  | .unknownFlag => "unknown flag"
  | .noFlag => "missing flag"
  | .noColon => "missing :"
  | .globalFlagOn => "bad inline flags: cannot turn on global flag"
  | .globalFlagOff => "bad inline flags: cannot turn off global flag"
  | .alphabetFlagOff => "bad inline flags: cannot turn off flags 'a', 'u' and 'L'"
  | .contradictoryFlags => "bad inline flags: flag turned on and off"
  | .variableLookbehind => "look-behind requires fixed-width pattern"
  | .longLookbehind => "looks too much behind"
  | .templateRepeat operator => s!"internal: unsupported template operator {operator}"

inductive Fault where
  /-- A fault at a place of the pattern, or of the pattern as a whole. -/
  | malformed (reason : Reason) (position : Option Nat)
  | repetitionTooLarge
  | numberTooLong
  | incompatibleFlags
  deriving DecidableEq, Repr

/-- The wording of a reason. In a pattern of several lines the place is also given as a line and
a column. -/
def faultMessage (pattern : List Char) (reason : Reason) : Option Nat → String
  | none => reason.message
  | some position =>
    let place := s!"{reason.message} at position {position}"
    let (line, column) := lineAndColumn (pattern.take position)
    if pattern.contains '\n' then place ++ s!" (line {line}, column {column})" else place

end SchemaCompiler.Pattern
