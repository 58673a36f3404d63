import Lakehouse.Text.LowerCase.Table
import Lakehouse.Text.Quoted.Table

/-!
# Quoted texts

How a text is shown inside a message or a list: between double quotes, with the usual backslash
escapes, and with every character that could not be seen spelled out by its code point.

- `hexDigits`: a number in lower-case hexadecimal.
- `quoted`: a text between double quotes.
- `quotedList`: a list of texts between brackets.
-/

namespace Lakehouse

namespace Text

/-- A number in lower-case hexadecimal, without leading zeros. -/
def hexDigits (n : Nat) : String :=
  String.ofList (Nat.toDigits 16 n)

/-- The character is spelled out by its code point. -/
def isSpelledOut (c : Char) : Bool :=
  inRanges spelledOutRanges c.toNat

/-- A code point between braces, after a backslash and a `u`. -/
def spellOut (c : Char) : String :=
  "\\u\x7b" ++ hexDigits c.toNat ++ "\x7d"

/-- One character of a quoted text. -/
def quotedChar (c : Char) : String :=
  if c = '"' then "\\\""
  else if c = '\\' then "\\\\"
  else if c = '\n' then "\\n"
  else if c = '\t' then "\\t"
  else if c = '\r' then "\\r"
  else if c.toNat = 0 then "\\0"
  else if isSpelledOut c then spellOut c
  else c.toString

/-- A text between double quotes. -/
def quoted (s : String) : String :=
  "\"" ++ String.join (s.toList.map quotedChar) ++ "\""

/-- Texts between brackets, each quoted. -/
def quotedList (ss : List String) : String :=
  "[" ++ String.intercalate ", " (ss.map quoted) ++ "]"

end Text

end Lakehouse
