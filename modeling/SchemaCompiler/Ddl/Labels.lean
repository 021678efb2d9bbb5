import SchemaCompiler.Ddl.Token
import SchemaCompiler.Text.Lines

/-!
Names between backticks and lists between parentheses.
-/

namespace SchemaCompiler.Ddl

open Text

def unwrapBackticks (text : List Char) : Except ParseError (List Char) :=
  match cutAt? ['\x60'] text with
  | none => fail (.noBacktick (String.ofList text)) text
  | some (_, behind) =>
    match cutAt? ['\x60'] behind with
    | none => fail (.loneBacktick (String.ofList text)) text
    | some (name, _) => .ok name

def unwrapParentheses (text : List Char) : Except ParseError (List Char) :=
  let shown := String.ofList text
  if !text.contains '(' then fail (.noOpening shown) text
  else if !text.contains ')' then fail (.noClosing shown) text
  else
    let start := text.idxOf '('
    let stop := text.idxOf ')'
    if stop < start then fail (.crossedParentheses shown) text
    else .ok (lowerFrom false (slice text (start + 1) stop))

def groups : List Token → List (List Token)
  | [] => [[]]
  | token :: rest =>
    if token.kind == .comma then [] :: groups rest
    else match groups rest with
      | [] => [[token]]
      | group :: more => (token :: group) :: more

/-- A single literal stands for its content, anything else for the text it spans. -/
def elementText (text : List Char) : List Token → Option (List Char)
  | [] => none
  | [token] =>
    if token.kind == .string then some token.value.toList
    else some (slice text token.start token.stop)
  | first :: rest => some (slice text first.start ((rest.getLast?.getD first).stop))

def labels (text : List Char) : Except ParseError (List String) := do
  let tokens ← tokenize text
  let shown := String.ofList text
  let kinds := tokens.map Token.kind
  if !kinds.contains .opening then fail (.noOpening shown) text
  else if !kinds.contains .closing then fail (.noClosing shown) text
  else
    let start := kinds.idxOf .opening
    let stop := kinds.idxOf .closing
    if stop < start then fail (.crossedParentheses shown) text
    else
      let inner := (tokens.drop (start + 1)).take (stop - (start + 1))
      match (groups inner).mapM (elementText text) with
      | none => fail (.emptyElement shown) text
      | some elements => .ok (elements.map fun e => String.ofList (lowerFrom false (trim e)))

end SchemaCompiler.Ddl
