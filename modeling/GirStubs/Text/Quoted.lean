import GirStubs.Unicode.Invisible

/-! # Quoted text

A text between double quotes, on one line whatever it holds: the quote and the
backslash are escaped, the common controls have a letter, and every character
without a glyph is written by its code point.
-/

namespace GirStubs.Text

open Unicode

/-- The hexadecimal digits of a number, in lower case and without leading zeros. -/
def hexDigits (n : Nat) : List Char := Nat.toDigits 16 n

/-- One character inside quotes. -/
def quoteChar (c : Char) : List Char :=
  if c = '"' ∨ c = '\\' then ['\\', c]
  else if c = '\t' then ['\\', 't']
  else if c = '\r' then ['\\', 'r']
  else if c = '\n' then ['\\', 'n']
  else if c.toNat = 0 then ['\\', '0']
  else if isInvisible c then "\\u\x7b".toList ++ hexDigits c.toNat ++ "\x7d".toList
  else [c]

/-- A text in quotes. -/
def quote (text : String) : String :=
  "\"" ++ String.ofList (text.toList.flatMap quoteChar) ++ "\""

end GirStubs.Text
