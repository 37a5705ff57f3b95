import GirStubs.Markup.Fault
import GirStubs.Text.Bytes

/-! # References

A reference stands for one character: `&lt;`, `&gt;`, `&amp;`, `&apos;`,
`&quot;`, or the number of any character but zero in base ten or, behind an
`x`, sixteen. `unescape` replaces every reference of a text or attribute value.
A semicolon outside a reference is an ordinary character.
-/

namespace GirStubs.Markup

open Text

/-- The value of a digit in a base. -/
def digitValue? (base : Nat) (c : Char) : Option Nat :=
  let value :=
    if '0' ≤ c ∧ c ≤ '9' then some (c.toNat - '0'.toNat)
    else if 'a' ≤ c ∧ c ≤ 'z' then some (c.toNat - 'a'.toNat + 10)
    else if 'A' ≤ c ∧ c ≤ 'Z' then some (c.toNat - 'A'.toNat + 10)
    else none
  value.filter (· < base)

/-- The number that the digits continue, at most 32 bits long. Of two faults the left one counts,
and a character that is no digit counts before the size. -/
def continueNumber (base number : Nat) : List Char → Except NumberFault Nat
  | [] => .ok number
  | c :: rest =>
    match digitValue? base c with
    | none => .error .invalidDigit
    | some digit =>
      if number * base + digit < 2 ^ 32 then continueNumber base (number * base + digit) rest
      else .error .tooLarge

/-- The number that the digits write. -/
def readNumber (base : Nat) : List Char → Except NumberFault Nat
  | [] => .error .empty
  | c :: rest =>
    if c = '+' ∨ c = '-' then .error .sign else continueNumber base 0 (c :: rest)

/-- The character with a number. -/
def characterNumbered (number : Nat) : Except NumberFault Char :=
  if number = 0 then .error .zero
  else if number.isValidChar then .ok (Char.ofNat number)
  else .error (.noCharacter number)

/-- The character of a numeric reference, given what stands behind the number sign. -/
def numericCharacter (digits : List Char) : Except NumberFault Char :=
  match digits with
  | 'x' :: hex => readNumber 16 hex >>= characterNumbered
  | _ => readNumber 10 digits >>= characterNumbered

/-- The named characters. -/
def namedCharacter? (name : List Char) : Option Char :=
  if name = ['l', 't'] then some '<'
  else if name = ['g', 't'] then some '>'
  else if name = ['a', 'm', 'p'] then some '&'
  else if name = ['a', 'p', 'o', 's'] then some '\''
  else if name = ['q', 'u', 'o', 't'] then some '"'
  else none

/-- The character that a reference stands for, given what stands between the ampersand at offset
`first - 1` and the semicolon. -/
def referenced (first : Nat) (name : List Char) : Except ReferenceFault Char :=
  match name with
  | '#' :: digits => (numericCharacter digits).mapError .number
  | _ =>
    match namedCharacter? name with
    | some c => .ok c
    | none => .error (.unknownName first (first + byteSize name) (String.ofList name))

/-- Replaces the references of a text from offset `position` on. Inside a reference, `pending`
holds the offset of its ampersand and the characters behind it, last first. -/
def unescapeFrom (position : Nat) (pending : Option (Nat × List Char)) :
    List Char → Except ReferenceFault (List Char)
  | [] =>
    match pending with
    | none => .ok []
    | some (start, _) => .error (.unterminated start position)
  | c :: rest =>
    match pending with
    | none =>
      if c = '&' then unescapeFrom (position + c.utf8Size) (some (position, [])) rest
      else do
        let text ← unescapeFrom (position + c.utf8Size) none rest
        return c :: text
    | some (start, seen) =>
      if c = '&' then .error (.unterminated start (position + byteSize (c :: rest)))
      else if c = ';' then do
        let character ← referenced (start + 1) seen.reverse
        let text ← unescapeFrom (position + c.utf8Size) none rest
        return character :: text
      else unescapeFrom (position + c.utf8Size) (some (start, c :: seen)) rest

/-- The text that a run of raw characters or a raw attribute value stands for. -/
def unescape (raw : List Char) : Except ReferenceFault (List Char) := unescapeFrom 0 none raw

end GirStubs.Markup
