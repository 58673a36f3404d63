import Lakehouse.Yaml.Token.Name
import Lakehouse.Yaml.Token.Text

/-!
# Reading tokens

The tokens of a text, one after another. A key needs no mark in front of it, so that a token is known
to begin one only when a colon follows: until then it is pending, and the mark is put in front of it
afterwards.

- `Yaml.Lexer`: the state between two tokens.
- `Yaml.Lexer.step?`: the next token.
- `Yaml.tokens?`: all tokens of a text.
-/

namespace Lakehouse

namespace Yaml

/-- A place where a key may have begun. -/
structure PendingKey where
  /-- The line is indented like the entries of the innermost block mapping, so that it must be a key. -/
  required : Bool
  /-- How many tokens stand before it. -/
  position : Nat
  index : Nat
  line : Nat
  column : Nat

/-- The state between two tokens. -/
structure Lexer where
  cursor : Cursor
  /-- The tokens read, the last first, and their number. -/
  tokens : List Token := []
  count : Nat := 0
  /-- The columns of the open block collections, the innermost first. -/
  indents : List Nat := []
  /-- A key may begin here. -/
  keyAllowed : Bool := true
  /-- The pending key of the innermost collection, and those of the collections around it, one for each
  open flow collection. -/
  pending : Option PendingKey := none
  outer : List (Option PendingKey) := []

namespace Lexer

/-- Inside a flow collection. -/
def inFlow (l : Lexer) : Bool :=
  !l.outer.isEmpty

/-- A token added. -/
def push (l : Lexer) (t : Token) : Lexer :=
  { l with tokens := t :: l.tokens, count := l.count + 1 }

/-- A token put in front of the one at a position. -/
def insertAt (l : Lexer) (position : Nat) (t : Token) : Lexer :=
  let after := l.count - position
  { l with tokens := l.tokens.take after ++ t :: l.tokens.drop after, count := l.count + 1 }

/-! ### Pending keys -/

/-- Nothing is pending any more. A key that had to be one is not given up. -/
def dropPending? (l : Lexer) : Option Lexer :=
  match l.pending with
  | some k => if k.required then none else some { l with pending := none }
  | none => some l

/-- A key may begin at the cursor. -/
def expectKey? (l : Lexer) : Option Lexer :=
  if l.keyAllowed then
    let c := l.cursor
    let key : PendingKey :=
      { required := !l.inFlow && l.indents.head? == some c.column
        position := l.count
        index := c.index
        line := c.line
        column := c.column }
    l.dropPending?.map fun l => { l with pending := some key }
  else some l

/-- A key stands on one line and takes no more bytes than this. -/
def longestKey : Nat := 1024

/-- A pending key that is still possible at a cursor. One that had to be a key is not given up. -/
def stillPending? (c : Cursor) : Option PendingKey → Option (Option PendingKey)
  | none => some none
  | some k =>
    if k.line < c.line ∨ k.index + longestKey < c.index then
      if k.required then none else some none
    else some (some k)

/-- Without the pending keys that are no longer possible. -/
def dropStale? (l : Lexer) : Option Lexer :=
  match stillPending? l.cursor l.pending, l.outer.mapM (stillPending? l.cursor) with
  | some pending, some outer => some { l with pending, outer }
  | _, _ => none

/-! ### Indentation -/

/-- A block collection opened at a column further right than those open, in front of the token at a
position. -/
def openBlock (l : Lexer) (column position : Nat) (t : Token) : Lexer :=
  let deeper : Bool := match l.indents with
    | [] => true
    | n :: _ => decide (n < column)
  if !l.inFlow && deeper then
    { l.insertAt position t with indents := column :: l.indents }
  else l

/-- The block collections further right than a column are closed; without a column all are. -/
def closeBlocks (l : Lexer) (column : Option Nat) : Lexer :=
  if l.inFlow then l
  else
    let further (n : Nat) : Bool := match column with
      | some column => decide (column < n)
      | none => true
    let closed := l.indents.takeWhile further
    { l with
      tokens := closed.map (fun _ => .blockEnd) ++ l.tokens
      count := l.count + closed.length
      indents := l.indents.dropWhile further }

/-! ### Tokens -/

/-- Past some characters that form a token. -/
def mark (l : Lexer) (width : Nat) (t : Token) : Lexer :=
  { l.push t with cursor := l.cursor.skip width }

/-- A token that has been read up to a cursor. -/
def accept (l : Lexer) (read : Token × Cursor) : Lexer :=
  { l.push read.1 with cursor := read.2 }

/-- Blanks, comments and line ends up to the next token. A mark of the byte order may begin a line, and
where a key may begin, a tab is no blank. -/
def skipToToken : (fuel : Nat) → Lexer → Lexer
  | 0, l => l
  | fuel + 1, l =>
    let isBlank (c : Char) : Bool := c == ' ' || (c == '\t' && (l.inFlow || !l.keyAllowed))
    let c := (l.cursor.skipByteOrderMark.skipWhile isBlank).skipComment
    match c.rest with
    | [] => { l with cursor := c }
    | d :: _ =>
      if isBreak d then
        skipToToken fuel { l with cursor := c.next, keyAllowed := l.keyAllowed || !l.inFlow }
      else { l with cursor := c }

/-- A directive. -/
def directive? (l : Lexer) : Option Lexer :=
  match (l.closeBlocks none).dropPending?, Yaml.directive? l.cursor with
  | some l, some read => some { l.accept read with keyAllowed := false }
  | _, _ => none

/-- The start or the end of a document. -/
def marker? (l : Lexer) (t : Token) : Option Lexer :=
  (l.closeBlocks none).dropPending?.map fun l => { l.mark 3 t with keyAllowed := false }

/-- A flow collection is opened. -/
def openFlow? (l : Lexer) (t : Token) : Option Lexer :=
  l.expectKey?.map fun l =>
    { l.mark 1 t with keyAllowed := true, pending := none, outer := l.pending :: l.outer }

/-- A flow collection is closed. -/
def closeFlow? (l : Lexer) (t : Token) : Option Lexer :=
  l.dropPending?.map fun l =>
    { l.mark 1 t with keyAllowed := false, pending := l.outer.head?.getD none, outer := l.outer.drop 1 }

/-- A comma. -/
def flowEntry? (l : Lexer) : Option Lexer :=
  l.dropPending?.map fun l => { l.mark 1 .flowEntry with keyAllowed := true }

/-- A block collection whose entry stands at the cursor is open, or is opened. In a block it needs a
place where a key may begin. -/
def enterBlock? (l : Lexer) (t : Token) : Option Lexer :=
  if l.inFlow then some l
  else if l.keyAllowed then some (l.openBlock l.cursor.column l.count t)
  else none

/-- A dash before an entry. -/
def blockEntry? (l : Lexer) : Option Lexer :=
  ((l.enterBlock? .blockSequenceStart).bind dropPending?).map fun l =>
    { l.mark 1 .blockEntry with keyAllowed := true }

/-- The mark in front of a key. -/
def key? (l : Lexer) : Option Lexer :=
  ((l.enterBlock? .blockMappingStart).bind dropPending?).map fun l =>
    { l.mark 1 .key with keyAllowed := !l.inFlow }

/-- A colon: what is pending is a key, and otherwise the key was marked or is left out. -/
def value? (l : Lexer) : Option Lexer :=
  match l.pending with
  | some k =>
    let l := (l.insertAt k.position .key).openBlock k.column k.position .blockMappingStart
    some { l.mark 1 .value with pending := none, keyAllowed := false }
  | none =>
    (l.enterBlock? .blockMappingStart).map fun l =>
      { l.mark 1 .value with keyAllowed := !l.inFlow }

/-- A token that a key can begin with, and that none can follow directly. -/
def keyPart? (l : Lexer) (read : Option (Token × Cursor)) : Option Lexer :=
  match l.expectKey?, read with
  | some l, some read => some { l.accept read with keyAllowed := false }
  | _, _ => none

/-- A scalar without marks. -/
def plain? (l : Lexer) : Option Lexer :=
  let indent := match l.indents with
    | [] => 0
    | n :: _ => n + 1
  match l.expectKey?, plainText? l.inFlow indent l.cursor with
  | some l, some (text, broken, c) => some { l.accept (.scalar true text, c) with keyAllowed := broken }
  | _, _ => none

/-- A block scalar. -/
def blockScalar? (l : Lexer) (literal : Bool) : Option Lexer :=
  match l.dropPending?, block? literal l.indents.head? l.cursor with
  | some l, some (text, c) => some { l.accept (.scalar false text, c) with keyAllowed := true }
  | _, _ => none

/-- The marks that no plain scalar begins with. -/
def marks : List Char :=
  "-?:,[]\x7b\x7d#&*!|>'\"%@\x60".toList

/-- A plain scalar can begin here. -/
def beginsPlain (flow : Bool) (cs : List Char) : Bool :=
  match cs with
  | [] => false
  | c :: rest =>
    (!endsWord cs && !marks.contains c) ||
      (c == '-' && !(rest.head?.map isSpacing).getD false) ||
      (!flow && (c == '?' || c == ':') && !endsWord rest)

/-- The token at the cursor. -/
def fetch? (l : Lexer) : Option Lexer :=
  let c := l.cursor
  let named (t : String → Token) : Option (Token × Cursor) := (name? c).map fun r => (t r.1, r.2)
  let quoted (double : Bool) : Option (Token × Cursor) :=
    (quoted? double c).map fun r => (.scalar false r.1, r.2)
  match c.rest with
  | [] => none
  | d :: rest =>
    if c.column = 0 ∧ d = '%' then l.directive?
    else if c.marked '-' then l.marker? .documentStart
    else if c.marked '.' then l.marker? .documentEnd
    else if d = '[' then l.openFlow? .flowSequenceStart
    else if d = '\x7b' then l.openFlow? .flowMappingStart
    else if d = ']' then l.closeFlow? .flowSequenceEnd
    else if d = '\x7d' then l.closeFlow? .flowMappingEnd
    else if d = ',' then l.flowEntry?
    else if d = '-' ∧ endsWord rest then l.blockEntry?
    else if d = '?' ∧ (l.inFlow ∨ endsWord rest) then l.key?
    else if d = ':' ∧ (l.inFlow ∨ endsWord rest) then l.value?
    else if d = '*' then l.keyPart? (named .alias)
    else if d = '&' then l.keyPart? (named .anchor)
    else if d = '!' then l.keyPart? (tag? l.inFlow c)
    else if d = '|' ∧ !l.inFlow then l.blockScalar? true
    else if d = '>' ∧ !l.inFlow then l.blockScalar? false
    else if d = '\'' then l.keyPart? (quoted false)
    else if d = '"' then l.keyPart? (quoted true)
    else if beginsPlain l.inFlow c.rest then l.plain?
    else none

/-- The tokens from a state on, and the end of the open block collections. -/
def run? : (fuel : Nat) → Lexer → Option (List Token)
  | 0, _ => none
  | fuel + 1, l =>
    match (l.skipToToken (fuel + 1)).dropStale? with
    | none => none
    | some l =>
      if l.cursor.rest.isEmpty then
        (l.closeBlocks none).dropPending?.map fun l => l.tokens.reverse
      else
        match (l.closeBlocks (some l.cursor.column)).fetch? with
        | some l => run? fuel l
        | none => none

end Lexer

/-- The tokens of a text. -/
def tokens? (s : String) : Option (List Token) :=
  match normalized? s with
  | some cs => Lexer.run? (cs.length + 2) { cursor := Cursor.start cs }
  | none => none

end Yaml

end Lakehouse
