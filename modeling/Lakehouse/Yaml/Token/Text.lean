import Lakehouse.Decimal.Digits
import Lakehouse.Yaml.Token.Cursor

/-!
# The texts of scalars

What stands between the marks of a scalar, by the way it is written. Within a quoted or a plain scalar
a single line end stands for a space and further ones for themselves; within a block scalar the
indentation is left out.

- `Yaml.quoted?`: between single or double quotes.
- `Yaml.plainText?`: without marks.
- `Yaml.block?`: indented below its mark, line by line.
-/

namespace Lakehouse

namespace Yaml

/-! ### Gaps -/

/-- Blanks and line ends between two words, the last first. Blanks count only before a line's end. -/
structure Gap where
  broken : Bool := false
  blanks : List Char := []
  breaks : List Char := []

/-- A gap after an escaped line end. -/
def Gap.escaped : Gap := { broken := true }

/-- What line ends in a row stand for: one line feed alone is a space, and the first of several is left
out. -/
def folded (breaks : List Char) : List Char :=
  match breaks with
  | ['\n'] => [' ']
  | '\n' :: more => more
  | _ => breaks

/-- What a gap stands for. -/
def Gap.text (g : Gap) : List Char :=
  if g.broken then folded g.breaks.reverse else g.blanks.reverse

/-- The gap that goes on at a cursor, and the place after it. A tab does not indent a line. -/
def gapFrom? (indent : Nat) : (fuel : Nat) → Gap → Cursor → Option (Gap × Cursor)
  | 0, _, _ => none
  | fuel + 1, g, c =>
    match c.rest with
    | [] => some (g, c)
    | d :: _ =>
      if isBreak d then
        gapFrom? indent fuel { g with broken := true, blanks := [], breaks := d :: g.breaks } c.next
      else if isSpacing d then
        if !g.broken then gapFrom? indent fuel { g with blanks := d :: g.blanks } c.next
        else if d = '\t' ∧ c.column < indent then none
        else gapFrom? indent fuel g c.next
      else some (g, c)

/-! ### Quoted scalars -/

/-- The character that a letter stands for after a backslash. -/
def escapeTable : List (Char × Nat) :=
  [('0', 0x0), ('a', 0x7), ('b', 0x8), ('t', 0x9), ('\t', 0x9), ('n', 0xA), ('v', 0xB), ('f', 0xC),
    ('r', 0xD), ('e', 0x1B), (' ', 0x20), ('"', 0x22), ('/', 0x2F), ('\\', 0x5C), ('N', 0x85),
    ('_', 0xA0), ('L', 0x2028), ('P', 0x2029)]

/-- How many hexadecimal digits follow a letter after a backslash. -/
def codeLength? (letter : Char) : Option Nat :=
  if letter = 'x' then some 2
  else if letter = 'u' then some 4
  else if letter = 'U' then some 8
  else none

/-- A character by its code point; surrogates are none. -/
def charOfCode? (n : Nat) : Option Char :=
  if (0xD800 ≤ n ∧ n ≤ 0xDFFF) ∨ 0x10FFFF < n then none else some (Char.ofNat n)

/-- The character of an escape, and the length of the escape with its backslash. -/
def escape? (letter : Char) (more : List Char) : Option (Char × Nat) :=
  match codeLength? letter with
  | some n =>
    let digits := more.take n
    if digits.length = n then
      ((Decimal.digitsValue? 16 digits).bind charOfCode?).map fun c => (c, 2 + n)
    else none
  | none => (escapeTable.lookup letter).map fun n => (Char.ofNat n, 2)

/-- The rest of a quoted scalar up to and with its closing quote; the characters read so far are given
last first. -/
def quotedFrom? (double : Bool) : (fuel : Nat) → List Char → Cursor → Option (List Char × Cursor)
  | 0, _, _ => none
  | fuel + 1, read, c =>
    let afterGap (g : Gap) (c : Cursor) (ending : Gap → List Char) : Option (List Char × Cursor) :=
      match gapFrom? 0 (fuel + 1) g c with
      | none => none
      | some (g, c) =>
        if c.atMarker then none else quotedFrom? double fuel ((ending g).reverse ++ read) c
    match c.rest with
    | [] => none
    | d :: rest =>
      if isSpacing d ∨ isBreak d then afterGap {} c Gap.text
      else
        match double, d, rest with
        | false, '\'', '\'' :: _ => quotedFrom? double fuel ('\'' :: read) (c.skip 2)
        | false, '\'', _ => some (read.reverse, c.skip 1)
        | true, '"', _ => some (read.reverse, c.skip 1)
        | true, '\\', letter :: more =>
          if isBreak letter then
            -- the line end itself is left out, and those after it stand for themselves
            afterGap .escaped (c.skip 1).next fun g => g.breaks.reverse
          else
            match escape? letter more with
            | some (e, n) => quotedFrom? double fuel (e :: read) (c.skip n)
            | none => none
        | true, '\\', [] => none
        | _, _, _ => quotedFrom? double fuel (d :: read) (c.skip 1)

/-- A quoted scalar, from its opening quote on. -/
def quoted? (double : Bool) (c : Cursor) : Option (String × Cursor) :=
  (quotedFrom? double (c.rest.length + 1) [] (c.skip 1)).map fun r => (String.ofList r.1, r.2)

/-! ### Plain scalars -/

/-- The brackets and the comma of flow collections. -/
def isFlowMark (c : Char) : Bool :=
  c == ',' || c == '[' || c == ']' || c == '\x7b' || c == '\x7d'

/-- The end of a word of a plain scalar: a blank, a colon that ends a key, or a mark of a flow
collection inside one. -/
def endsPlain (flow : Bool) (cs : List Char) : Bool :=
  match cs with
  | ':' :: rest => endsWord rest
  | c :: _ => endsWord cs || (flow && isFlowMark c)
  | [] => true

/-- A colon that could be the end of a key or a part of a word: flow collections do not admit it. -/
def isUnclearColon (flow : Bool) (cs : List Char) : Bool :=
  match cs with
  | ':' :: c :: _ => flow && (isFlowMark c || c == '?')
  | _ => false

/-- The rest of a word of a plain scalar, and the place after it. -/
def plainWord? (flow : Bool) : (fuel : Nat) → List Char → Cursor → Option (List Char × Cursor)
  | 0, _, _ => none
  | fuel + 1, read, c =>
    if isUnclearColon flow c.rest then none
    else if endsPlain flow c.rest then some (read, c)
    else
      match c.rest with
      | [] => some (read, c)
      | d :: _ => plainWord? flow fuel (d :: read) c.next

/-- A plain scalar, word by word: its characters last first, whether a line end follows it directly,
and the place after it and after the gap that follows it. -/
def plainFrom? (flow : Bool) (indent : Nat) :
    (fuel : Nat) → (broken : Bool) → List Char → Gap → Cursor → Option (List Char × Bool × Cursor)
  | 0, _, _, _, _ => none
  | fuel + 1, broken, read, g, c =>
    if c.atMarker ∨ c.rest.head? = some '#' then some (read, broken, c)
    else
      match plainWord? flow (fuel + 1) [] c with
      | none => none
      | some (word, after) =>
        let (read, broken) :=
          if word.isEmpty then (read, broken) else (word ++ g.text.reverse ++ read, false)
        if !after.rest.isEmpty && endsWord after.rest then
          match gapFrom? indent (fuel + 1) {} after with
          | none => none
          | some (g, c) =>
            if !flow ∧ c.column < indent then some (read, g.broken, c)
            else plainFrom? flow indent fuel g.broken read g c
        else some (read, broken, after)

/-- A plain scalar that must be indented by a number of columns: its text, whether it ends before a new
line, and the place after it. -/
def plainText? (flow : Bool) (indent : Nat) (c : Cursor) : Option (String × Bool × Cursor) :=
  (plainFrom? flow indent (c.rest.length + 1) false [] {} c).map fun r =>
    (String.ofList r.1.reverse, r.2)

/-! ### Block scalars -/

/-- What happens to the line ends at the end of a block scalar. -/
inductive Chomping where
  | strip
  | clip
  | keep
  deriving DecidableEq, Repr

/-- The chomping that a mark asks for. -/
def chomping? (cs : List Char) : Option Chomping :=
  match cs with
  | '+' :: _ => some .keep
  | '-' :: _ => some .strip
  | _ => none

/-- The digit at a place. -/
def digit? (cs : List Char) : Option Nat :=
  cs.head?.bind (Decimal.digitValue? 10)

/-- The chomping and the indentation after the mark of a block scalar, in either order; an indentation
of zero is refused. -/
def blockHeader? (c : Cursor) : Option (Chomping × Option Nat × Cursor) :=
  let checked (chomping : Chomping) (width : Option Nat) (c : Cursor) :=
    if width = some 0 then none else (c.nextLine?).map fun c => (chomping, width, c)
  let after (width : Option Nat) (c : Cursor) : Cursor := if width.isSome then c.skip 1 else c
  match chomping? c.rest with
  | some chomping =>
    let width := digit? (c.rest.drop 1)
    checked chomping width (after width (c.skip 1))
  | none =>
    let width := digit? c.rest
    let c := after width c
    match chomping? c.rest with
    | some chomping => checked chomping width (c.skip 1)
    | none => checked .clip width c

/-- Empty lines, last first, and the indentation of the line after them; without a given indentation
also the greatest one seen. A tab does not indent a line. -/
def emptyLines? (indent : Option Nat) :
    (fuel : Nat) → (greatest : Nat) → List Char → Cursor → Option (Nat × List Char × Cursor)
  | 0, _, _, _ => none
  | fuel + 1, greatest, breaks, c =>
    let spaces := (c.taken (· == ' ')).length
    let c := c.skip (match indent with
      | some n => min spaces (n - c.column)
      | none => spaces)
    let greatest := max greatest c.column
    let inside : Bool := match indent with
      | some n => decide (c.column < n)
      | none => true
    match c.rest with
    | d :: _ =>
      if d = '\t' ∧ inside then none
      else if isBreak d then emptyLines? indent fuel greatest (d :: breaks) c.next
      else some (greatest, breaks, c)
    | [] => some (greatest, breaks, c)

/-- The lines of a block scalar: those read so far last first, whether the last of them began with a
blank, its line end and the line ends after it. -/
structure BlockLines where
  read : List Char := []
  blank : Bool := false
  ending : List Char := []
  breaks : List Char := []

/-- What joins the next line to those before it. Folding leaves out one line feed between two lines
that do not begin with a blank. -/
def BlockLines.joint (l : BlockLines) (literal blank : Bool) : List Char :=
  if !literal && l.ending == ['\n'] && !l.blank && !blank then
    if l.breaks.isEmpty then [' '] else l.breaks
  else l.breaks ++ l.ending

/-- The lines indented by a number of columns. -/
def blockLines? (literal : Bool) (indent : Nat) :
    (fuel : Nat) → BlockLines → Cursor → Option (BlockLines × Cursor)
  | 0, _, _ => none
  | fuel + 1, l, c =>
    match c.rest with
    | [] => some (l, c)
    | d :: _ =>
      if c.column ≠ indent then some (l, c)
      else
        let blank := isSpacing d
        let line := c.taken fun d => !isBreak d
        let after := c.skip line.length
        match emptyLines? (some indent) (fuel + 1) 0 [] after.next with
        | none => none
        | some (_, breaks, next) =>
          let l : BlockLines :=
            { read := line.reverse ++ l.joint literal blank ++ l.read
              blank
              ending := after.rest.take 1
              breaks }
          blockLines? literal indent fuel l next

/-- A block scalar, from its mark on, inside a collection that is indented by some columns, if by any. -/
def block? (literal : Bool) (around : Option Nat) (c : Cursor) : Option (String × Cursor) :=
  let fuel := c.rest.length + 1
  match blockHeader? (c.skip 1) with
  | none => none
  | some (chomping, width, c) =>
    let given := width.map fun n => around.getD 0 + n
    match emptyLines? given fuel 0 [] c with
    | none => none
    | some (greatest, breaks, c) =>
      let least := match around with
        | some n => n + 1
        | none => 1
      let indent := given.getD (max greatest least)
      match blockLines? literal indent fuel { breaks } c with
      | none => none
      | some (l, c) =>
        let tail := match chomping with
          | .strip => []
          | .clip => l.ending
          | .keep => l.breaks ++ l.ending
        some (String.ofList (tail ++ l.read).reverse, c)

end Yaml

end Lakehouse
