/-!
# Cursors

A place in a YAML text: what follows it, and where it stands.

- `Yaml.normalized?`: a text that YAML admits, with the three common line endings made one.
- `Yaml.Cursor`: a place, and the ways to move it on.
- `Yaml.Cursor.atMarker`: the line begins with the marker between two documents.
-/

namespace Lakehouse

namespace Yaml

/-- The characters that a text may hold. -/
def isAllowed (c : Char) : Bool :=
  let n := c.toNat
  n == 0x9 || n == 0xA || n == 0xD || (0x20 ≤ n && n ≤ 0x7E) || n == 0x85 ||
    (0xA0 ≤ n && n ≤ 0xFFFD) || 0x10000 ≤ n

/-- One line feed for each line ending; the line and paragraph separators stay. -/
def unifyLines : List Char → List Char
  | [] => []
  | '\r' :: '\n' :: rest => '\n' :: unifyLines rest
  | c :: rest => (if c = '\r' ∨ c.toNat = 0x85 then '\n' else c) :: unifyLines rest

/-- The characters of a text, if all are allowed. -/
def normalized? (s : String) : Option (List Char) :=
  let cs := s.toList
  if cs.all isAllowed then some (unifyLines cs) else none

/-- A blank within a line. -/
def isSpacing (c : Char) : Bool :=
  c == ' ' || c == '\t'

/-- The end of a line. -/
def isBreak (c : Char) : Bool :=
  c == '\n' || c.toNat == 0x2028 || c.toNat == 0x2029

/-- A word ends here: at a blank, at a line's end or at the end of the text. -/
def endsWord (cs : List Char) : Bool :=
  match cs with
  | [] => true
  | c :: _ => isSpacing c || isBreak c

/-- A line ends here. -/
def endsLine (cs : List Char) : Bool :=
  match cs with
  | [] => true
  | c :: _ => isBreak c

/-- The characters of names and handles. -/
def isNameChar (c : Char) : Bool :=
  c.isAlphanum || c == '_' || c == '-'

/-- The number of bytes that encode some characters. -/
def byteCount (cs : List Char) : Nat :=
  cs.foldl (fun n c => n + c.utf8Size) 0

/-- The mark of the byte order. -/
def isByteOrderMark (c : Char) : Bool :=
  c.toNat == 0xFEFF

/-- A place in a text. Lines and columns are counted from zero. -/
structure Cursor where
  rest : List Char
  /-- The number of bytes before the place. -/
  index : Nat
  line : Nat
  column : Nat

namespace Cursor

/-- The start of a text. -/
def start (cs : List Char) : Cursor := ⟨cs, 0, 0, 0⟩

/-- Past one character; the character after a line's end stands in the first column. -/
def next (c : Cursor) : Cursor :=
  match c.rest with
  | [] => c
  | d :: rest =>
    let index := c.index + d.utf8Size
    if isBreak d then ⟨rest, index, c.line + 1, 0⟩ else ⟨rest, index, c.line, c.column + 1⟩

/-- Past some characters of one line. -/
def skip (c : Cursor) (n : Nat) : Cursor :=
  ⟨c.rest.drop n, c.index + byteCount (c.rest.take n), c.line, c.column + n⟩

/-- The characters up to the first that is none of a class, which excludes line ends. -/
def taken (c : Cursor) (member : Char → Bool) : List Char :=
  c.rest.takeWhile member

/-- Past those characters. -/
def skipWhile (c : Cursor) (member : Char → Bool) : Cursor :=
  c.skip (c.taken member).length

/-- Past a mark of the byte order, if a line begins with one. It takes a column. -/
def skipByteOrderMark (c : Cursor) : Cursor :=
  if c.column == 0 && (c.rest.head?.map isByteOrderMark).getD false then c.skip 1 else c

/-- Past a comment, if one begins here. -/
def skipComment (c : Cursor) : Cursor :=
  if c.rest.head? = some '#' then c.skipWhile fun d => !isBreak d else c

/-- Past blanks and a comment to the next line, if nothing else stands on this one. -/
def nextLine? (c : Cursor) : Option Cursor :=
  let c := (c.skipWhile isSpacing).skipComment
  if endsLine c.rest then some c.next else none

/-- The line begins with three equal marks that form a word. -/
def marked (c : Cursor) (mark : Char) : Bool :=
  c.column == 0 && c.rest.take 3 == [mark, mark, mark] && endsWord (c.rest.drop 3)

/-- The line begins with the marker that starts or ends a document. -/
def atMarker (c : Cursor) : Bool :=
  c.marked '-' || c.marked '.'

end Cursor

end Yaml

end Lakehouse
