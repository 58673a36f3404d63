import Lakehouse.Text.LowerCase.Table

/-!
# Full lower-casing

Two names that differ in letter case only name the same relation. A name is lower-cased as a whole:
each character goes to its lower-case counterpart, the capital I with a dot above to two characters,
and a capital sigma to the final form at the end of a word.

- `lowerChar`: the counterpart of one character, whatever stands around it.
- `endsWord`: whether a sigma between two stretches of text is final.
- `lower`: a whole text.
-/

namespace Lakehouse

namespace Text

/-- The property Case_Ignorable. -/
def isCaseIgnorable (c : Char) : Bool :=
  inRanges caseIgnorableRanges c.toNat

/-- The property Cased, for a character that is not case-ignorable. -/
def isCased (c : Char) : Bool :=
  inRanges casedRanges c.toNat

/-- The lower-case counterpart of a character, context aside. -/
def lowerChar (c : Char) : List Char :=
  if c.toNat < 0x80 then [c.toLower]
  else if c.toNat = 0x130 then [Char.ofNat 0x69, Char.ofNat 0x307]
  else
    match lowerRanges.find? (·.covers c.toNat) with
    | some r => [Char.ofNat ((c.toNat : Int) + r.shift).toNat]
    | none => [c]

/-- Whether the first character that is not looked through is a cased one. -/
def meetsCased (cs : List Char) : Bool :=
  match cs.dropWhile isCaseIgnorable with
  | [] => false
  | c :: _ => isCased c

/-- A sigma is final when a cased character comes before it and none after it. The characters before
it are given nearest first. -/
def endsWord (before after : List Char) : Bool :=
  meetsCased before && !meetsCased after

/-- A capital sigma. -/
def capitalSigma : Char := Char.ofNat 0x3A3

/-- A small sigma inside a word. -/
def smallSigma : Char := Char.ofNat 0x3C3

/-- A small sigma at the end of a word. -/
def finalSigma : Char := Char.ofNat 0x3C2

/-- Lower-cases what follows the characters `before` (nearest first). -/
def lowerFrom (before : List Char) : List Char → List Char
  | [] => []
  | c :: rest =>
    let here :=
      if c = capitalSigma then [if endsWord before rest then finalSigma else smallSigma]
      else lowerChar c
    here ++ lowerFrom (c :: before) rest

/-- A text in lower case. -/
def lower (s : String) : String :=
  String.ofList (lowerFrom [] s.toList)

end Text

end Lakehouse
