/-! # Identifiers

A name can stand in a Lua program only if it is no keyword and does not start
with a digit. `safeIdentifier` marks the names that cannot: a keyword gets two
underscores behind it, a leading digit two before it.
-/

namespace GirStubs.Lua

/-- The reserved words. -/
def keywords : List String :=
  ["and", "break", "do", "else", "elseif", "end", "false", "for", "function", "goto", "if", "in",
   "local", "nil", "not", "or", "repeat", "return", "then", "true", "until", "while"]

/-- The name starts with an ASCII digit. -/
def startsWithDigit (name : String) : Bool := name.toList.head?.any Char.isDigit

/-- The name in a form that may stand in a program. -/
def safeIdentifier (name : String) : String :=
  if name ∈ keywords then name ++ "__"
  else if startsWithDigit name then "__" ++ name
  else name

end GirStubs.Lua
