import SchemaCompiler.Text.Case

/-!
Patterns: what a regular expression consists of, and the characters that its parts accept.
-/

namespace SchemaCompiler.Pattern

open Text

structure Flags where
  ignoreCase : Bool := false
  multiline : Bool := false
  dotAll : Bool := false
  verbose : Bool := false
  ascii : Bool := false
  unicode : Bool := false
  template : Bool := false
  deriving DecidableEq

inductive CharKind where
  | digit
  | space
  | word
  deriving DecidableEq

inductive SetItem where
  | single (code : Nat)
  | range (first last : Nat)
  | kind (kind : CharKind) (negated : Bool)
  deriving DecidableEq

inductive CharTest where
  /-- Everything, or everything but a line feed. -/
  | any (lineFeed : Bool)
  | oneOf (negated : Bool) (items : List SetItem)

inductive Anchor where
  | textStart
  | textEnd
  /-- The end, or before a line feed that ends the text. -/
  | beforeFinalBreak
  | lineStart
  | lineEnd
  | wordBoundary (negated : Bool)
  deriving DecidableEq

inductive Mode where
  | greedy
  | lazy
  | possessive
  deriving DecidableEq

structure Compare where
  ignoreCase : Bool
  ascii : Bool
  deriving DecidableEq

inductive Node where
  | empty
  | char (test : CharTest) (compare : Compare)
  | anchor (anchor : Anchor) (ascii : Bool)
  | seq (first second : Node)
  | alt (first second : Node)
  | repeated (body : Node) (minimum : Nat) (maximum : Option Nat) (mode : Mode) (template : Bool)
  | group (index : Nat) (body : Node)
  /-- The text of an earlier group, whose least and greatest widths are known. -/
  | backreference (index least greatest : Nat) (compare : Compare)
  | lookahead (negated : Bool) (body : Node)
  | lookbehind (negated : Bool) (body : Node)
  | atomic (body : Node)
  | conditional (index : Nat) (whenSet : Node) (otherwise : Option Node)

/-! Characters -/

def CharKind.holds (ascii : Bool) (c : Char) : CharKind → Bool
  | digit => if ascii then isAsciiDigit c else isDecimalDigit c
  | space => if ascii then c == ' ' || (9 ≤ c.toNat && c.toNat ≤ 13) else isBlank c
  | word => if ascii then isAsciiAlphanumeric c || c == '_' else isWordChar c

def foldChar (ascii : Bool) (c : Char) : Char :=
  if ascii then if isAsciiUpper c then Char.ofNat (c.toNat + 32) else c
  else lowerChar c

def foldCode (ascii : Bool) (code : Nat) : Nat :=
  if h : code.isValidChar then (foldChar ascii (Char.ofNatAux code h)).toNat else code

def twins (ascii : Bool) (code : Nat) : List Nat :=
  if ascii then [] else (Tables.caseTwins.lookup code).getD []

def unfold (ascii : Bool) (code : Nat) : List Nat :=
  let ofAscii := if 97 ≤ code && code ≤ 122 then [code - 32] else []
  let own := if foldCode ascii code == code then [code] else []
  if ascii then own ++ ofAscii
  else
    let dotted := if code == 105 then [0x130] else []
    let others := Tables.capitals.filterMap fun run =>
      let source := ((code : Int) - run.offset).toNat
      if run.contains source && foldCode false source == code then some source else none
    own ++ ofAscii ++ dotted ++ others

def SetItem.holds (ascii : Bool) (c : Char) : SetItem → Bool
  | single code => c.toNat == code
  | range first last => first ≤ c.toNat && c.toNat ≤ last
  | kind k negated => k.holds ascii c != negated

/-- Whether an item accepts some character that differs from the given one in case only. -/
def SetItem.holdsFolded (ascii : Bool) (c : Char) : SetItem → Bool
  | single code =>
    let folded := foldCode ascii c.toNat
    let target := foldCode ascii code
    folded == target || (twins ascii target).contains folded
  | range first last =>
    let folded := foldCode ascii c.toNat
    let accepts (code : Nat) : Bool := (unfold ascii code).any fun n => first ≤ n && n ≤ last
    accepts folded || (twins ascii folded).any accepts
  | kind k negated => k.holds ascii (foldChar ascii c) != negated

def CharTest.holds (compare : Compare) (c : Char) : CharTest → Bool
  | any lineFeed => lineFeed || c != '\n'
  | oneOf negated items =>
    items.any (if compare.ignoreCase then SetItem.holdsFolded compare.ascii c
      else SetItem.holds compare.ascii c) != negated

def Compare.same (compare : Compare) (a b : Char) : Bool :=
  if compare.ignoreCase then foldChar compare.ascii a == foldChar compare.ascii b else a == b

/-! Widths -/

/-- Widths are not told apart from here on. -/
def maxWidth : Nat := Nat.pow 2 64

/-- Counts of repetitions that stand for no bound. -/
def maxRepeat : Nat := Nat.pow 2 32 - 1

namespace Node

def width : Node → Nat × Nat
  | empty => (0, 0)
  | char _ _ => (1, 1)
  | anchor _ _ => (0, 0)
  | seq a b =>
    let (l, h) := a.width
    let (l', h') := b.width
    (min (l + l') maxWidth, min (h + h') maxWidth)
  | alt a b =>
    let (l, h) := a.width
    let (l', h') := b.width
    (min l l', max h h')
  | repeated body minimum maximum _ _ =>
    let (l, h) := body.width
    let greatest := match maximum with
      | none => if h == 0 then 0 else maxWidth
      | some n => h * n
    (min (l * minimum) maxWidth, min greatest maxWidth)
  | group _ body => body.width
  | backreference _ least greatest _ => (least, greatest)
  | lookahead _ _ => (0, 0)
  | lookbehind _ _ => (0, 0)
  | atomic body => body.width
  | conditional _ whenSet otherwise =>
    let (l, h) := whenSet.width
    match otherwise with
    | none => (0, h)
    | some other =>
      let (l', h') := other.width
      (min l l', max h h')

def sequence (nodes : List Node) : Node :=
  match nodes with
  | [] => empty
  | [node] => node
  | node :: rest => seq node (sequence rest)

end Node

end SchemaCompiler.Pattern
