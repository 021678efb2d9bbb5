import SchemaCompiler.Text.CharClass

/-!
Lower case of text. Every character is mapped by itself, apart from the capital sigma, which
takes its final form at the end of a word, and the dotted capital I, which becomes two characters.
-/

namespace SchemaCompiler.Text

open Tables

/-- The lower case of one character, as far as it is one character. -/
def lowerChar (c : Char) : Char :=
  let n := c.toNat
  if n < 128 then
    if isAsciiUpper c then Char.ofNat (n + 32) else c
  else if n == 0x130 then 'i'
  else match capitals.find? (·.contains n) with
    | some run => Char.ofNat (n + run.offset).toNat
    | none => c

def isCased (c : Char) : Bool :=
  if c.toNat < 128 then isAsciiLetter c else inClass casedLetters c.toNat

/-- Characters that do not interrupt a word when the form of a sigma is decided. -/
def isCaseIgnorable (c : Char) : Bool :=
  if c.toNat < 128 then c == '\'' || c == '.' || c == ':' || c == '^' || c == '\x60'
  else inClass caseIgnorable c.toNat

def continuesWord : List Char → Bool
  | [] => false
  | c :: rest => if isCaseIgnorable c then continuesWord rest else isCased c

/-- `inWord` tells whether the last character before the text that counts was cased. -/
def lowerFrom (inWord : Bool) : List Char → List Char
  | [] => []
  | c :: rest =>
    let after := if isCaseIgnorable c then inWord else isCased c
    if c == '\u03a3' then
      (if inWord && !continuesWord rest then '\u03c2' else '\u03c3') :: lowerFrom after rest
    else if c == '\u0130' then 'i' :: '\u0307' :: lowerFrom after rest
    else lowerChar c :: lowerFrom after rest

def lower (text : String) : String := String.ofList (lowerFrom false text.toList)

def asciiUpperChar (c : Char) : Char :=
  if isAsciiLower c then Char.ofNat (c.toNat - 32) else c

end SchemaCompiler.Text
