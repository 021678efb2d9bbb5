import SchemaCompiler.Ddl.ParseError
import SchemaCompiler.Text.Case

/-!
Tokens of a line of a schema dump. A token keeps the span of text that it was read from, and
quoted tokens hold their content without the delimiters.
-/

namespace SchemaCompiler.Ddl

open Text

inductive TokenKind where
  | identifier
  | string
  | number
  | word
  | opening
  | closing
  | comma
  | symbol
  deriving DecidableEq, Repr

structure Token where
  kind : TokenKind
  value : String
  start : Nat
  stop : Nat
  deriving DecidableEq, Repr

namespace Token

def isWord (t : Token) (candidates : List String) : Bool :=
  t.kind == .word && candidates.contains (lower t.value)

end Token

/-- The content of a literal behind its opening quote, up to the quote that closes it. A doubled
quote and an escaped character belong to the content. When no quote closes the literal behind a
doubled one, the first half of the doubled one does. -/
def literalContent? (quote : Char) : List Char → Option (List Char)
  | [] => none
  | c :: rest =>
    if c == quote then
      match rest with
      | next :: more =>
        if next == quote then
          match literalContent? quote more with
          | some content => some (quote :: quote :: content)
          | none => some []
        else some []
      | [] => some []
    else if c == '\\' then
      match rest with
      | [] => none
      | escaped :: more => (literalContent? quote more).map (c :: escaped :: ·)
    else (literalContent? quote rest).map (c :: ·)

def undoubleQuotes (quote : Char) : List Char → List Char
  | [] => []
  | [c] => [c]
  | a :: b :: rest =>
    if a == quote && b == quote then quote :: undoubleQuotes quote rest
    else a :: undoubleQuotes quote (b :: rest)

/-- A backslash is dropped in front of everything but a line feed. -/
def dropEscapes : List Char → List Char
  | [] => []
  | '\\' :: c :: rest =>
    if c == '\n' then '\\' :: c :: dropEscapes rest else c :: dropEscapes rest
  | c :: rest => c :: dropEscapes rest

def literalValue (quote : Char) (content : List Char) : List Char :=
  dropEscapes (undoubleQuotes quote content)

def numberLength? (text : List Char) : Option Nat :=
  let (sign, unsigned) := match text with
    | '+' :: rest => (1, rest)
    | '-' :: rest => (1, rest)
    | rest => (0, rest)
  let whole := unsigned.takeWhile isDecimalDigit
  if whole.isEmpty then none
  else
    let fraction := match unsigned.dropWhile isDecimalDigit with
      | '.' :: rest =>
        match (rest.takeWhile isDecimalDigit).length with
        | 0 => 0
        | n => n + 1
      | _ => 0
    some (sign + whole.length + fraction)

def startsWord (c : Char) : Bool := isAsciiLetter c || c == '_'

def continuesName (c : Char) : Bool := isWordChar c || c == '$'

/-- What stands in front of a text: the token's kind, its value and the length of its span. -/
structure Lexeme where
  kind : TokenKind
  value : List Char
  length : Nat

def firstLexeme? (text : List Char) : Option Lexeme :=
  match text with
  | [] => none
  | c :: rest =>
    if c == '\x60' then
      match cut rest with
      | some name => some ⟨.identifier, name, name.length + 2⟩
      | none => none
    else if c == '\'' || c == '"' then
      (literalContent? c rest).map fun content =>
        ⟨.string, literalValue c content, content.length + 2⟩
    else match numberLength? text with
      | some n => some ⟨.number, text.take n, n⟩
      | none =>
        if startsWord c then
          let word := c :: rest.takeWhile continuesName
          some ⟨.word, word, word.length⟩
        else if c == '(' then some ⟨.opening, [c], 1⟩
        else if c == ')' then some ⟨.closing, [c], 1⟩
        else if c == ',' then some ⟨.comma, [c], 1⟩
        else some ⟨.symbol, [c], 1⟩
where
  cut (rest : List Char) : Option (List Char) :=
    if rest.contains '\x60' then some (rest.takeWhile (· != '\x60')) else none

/-- Reads tokens from the given offset on. Every token takes at least one character, so the
length of the text bounds their number. -/
def tokensFrom (whole : List Char) :
    (bound start : Nat) → List Char → Except ParseError (List Token)
  | 0, _, _ => .ok []
  | bound + 1, start, text =>
    match text with
    | [] => .ok []
    | c :: rest =>
      if isBlank c then tokensFrom whole bound (start + 1) rest
      else
        match firstLexeme? text with
        | none => fail (.unclosedQuote (String.ofList text)) whole
        | some found =>
          let token : Token :=
            ⟨found.kind, String.ofList found.value, start, start + found.length⟩
          match tokensFrom whole bound (start + found.length) (text.drop found.length) with
          | .ok tokens => .ok (token :: tokens)
          | .error e => .error e

def tokenize (text : List Char) : Except ParseError (List Token) :=
  tokensFrom text text.length 0 text

def slice (text : List Char) (start stop : Nat) : List Char := (text.drop start).take (stop - start)

end SchemaCompiler.Ddl
