/-!
# UTF-8

Bytes as text. A sequence of bytes is read character by character; where it breaks the rules of
UTF-8, the longest part that could have begun a character counts as one malformed piece.

- `pieces`: the characters and the malformed pieces of some bytes.
- `ofBytes?`: the text, if nothing is malformed.
- `ofBytesLossy`: the text with each malformed piece replaced by U+FFFD.
-/

namespace Lakehouse

namespace Text

/-- A character begun: how many bytes it still needs, the interval in which the next one must lie, and
the bits read so far. -/
structure Begun where
  needed : Nat
  least : Nat
  greatest : Nat
  bits : Nat

/-- A first byte: a whole character, one begun, or nothing that begins one. -/
def beginChar (b : Nat) : Option (Char ⊕ Begun) :=
  if b < 0x80 then some (.inl (Char.ofNat b))
  else if 0xC2 ≤ b ∧ b ≤ 0xDF then some (.inr ⟨1, 0x80, 0xBF, b - 0xC0⟩)
  else if b = 0xE0 then some (.inr ⟨2, 0xA0, 0xBF, 0⟩)
  else if b = 0xED then some (.inr ⟨2, 0x80, 0x9F, 0xD⟩)
  else if 0xE1 ≤ b ∧ b ≤ 0xEF then some (.inr ⟨2, 0x80, 0xBF, b - 0xE0⟩)
  else if b = 0xF0 then some (.inr ⟨3, 0x90, 0xBF, 0⟩)
  else if 0xF1 ≤ b ∧ b ≤ 0xF3 then some (.inr ⟨3, 0x80, 0xBF, b - 0xF0⟩)
  else if b = 0xF4 then some (.inr ⟨3, 0x80, 0x8F, 4⟩)
  else none

/-- The pieces of bytes after a character begun, `none` standing for a malformed piece. -/
def piecesFrom (begun : Option Begun) : List UInt8 → List (Option Char)
  | [] => if begun.isSome then [none] else []
  | byte :: rest =>
    let b := byte.toNat
    let fresh (broken : List (Option Char)) : List (Option Char) :=
      broken ++
        match beginChar b with
        | some (.inl c) => some c :: piecesFrom none rest
        | some (.inr s) => piecesFrom (some s) rest
        | none => none :: piecesFrom none rest
    match begun with
    | none => fresh []
    | some s =>
      if s.least ≤ b ∧ b ≤ s.greatest then
        let bits := s.bits * 64 + (b - 0x80)
        if s.needed ≤ 1 then some (Char.ofNat bits) :: piecesFrom none rest
        else piecesFrom (some ⟨s.needed - 1, 0x80, 0xBF, bits⟩) rest
      else fresh [none]

/-- The characters and the malformed pieces of some bytes. -/
def pieces (bytes : List UInt8) : List (Option Char) :=
  piecesFrom none bytes

/-- The text that the bytes encode. -/
def ofBytes? (bytes : List UInt8) : Option String :=
  let ps := pieces bytes
  if ps.all Option.isSome then some (String.ofList (ps.filterMap id)) else none

/-- The text that the bytes encode, with each malformed piece replaced. -/
def ofBytesLossy (bytes : List UInt8) : String :=
  String.ofList ((pieces bytes).map fun p => p.getD (Char.ofNat 0xFFFD))

end Text

end Lakehouse
