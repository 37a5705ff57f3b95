import GirStubs.Text.Blank
import GirStubs.Text.Rewrite
import GirStubs.Unicode.Lowercase

/-! # Documentation comments

Documentation comes with marks of its own: `%NULL`, `%TRUE` and `%FALSE`, names
behind an at sign or a number sign, calls with an empty argument list, and code
between `|[` and `]|`, with a language or without. `block` turns the first three
into quoted words, `lines` fences the code and makes every line a comment, and
`trailing` folds the whole text into the rest of one annotation line.
-/

namespace GirStubs.Lua.Comment

open Text Unicode

/-- What every line of a long comment starts with. -/
def linePrefix : List Char := "--- ".toList

/-- What stands between an annotation and the documentation on its line. -/
def marker : List Char := " # ".toList

/-- Words in backquotes. -/
def quoted (word : List Char) : List Char := '\x60' :: word ++ ['\x60']

/-- The mark around code. -/
def fence : List Char := "```".toList

/-- A character that may start a name. -/
def isNameStart (c : Char) : Bool := c.isAlpha || c = '_'

/-- A character that may stand in a name. -/
def isNameChar (c : Char) : Bool := c.isAlphanum || c = '_'

/-- A character that may stand in the name of a call. -/
def isCallChar (c : Char) : Bool := c.isLower || c = '_'

/-- An at sign or number sign with a name behind it: the name is quoted and the sign dropped. -/
def crossReference : Rule
  | [] => none
  | sign :: rest =>
    if sign = '@' ∨ sign = '#' then
      match rest.takeWhile isNameChar with
      | [] => none
      | first :: more =>
        if isNameStart first then some (more.length + 2, quoted (first :: more)) else none
    else none

/-- Lower-case letters and underscores with an empty argument list behind them: the whole call is
quoted. -/
def callReference : Rule := fun text =>
  let name := text.takeWhile isCallChar
  if name ≠ [] ∧ "()".toList.isPrefixOf (text.drop name.length) then
    some (name.length + 2, quoted (name ++ "()".toList))
  else none

/-- The text with the three literals written as Lua writes them. -/
def replaceLiterals (text : List Char) : List Char :=
  replaceAll "%FALSE".toList (quoted "false".toList)
    (replaceAll "%TRUE".toList (quoted "true".toList)
      (replaceAll "%NULL".toList (quoted "nil".toList) text))

/-- The text with literals and references quoted, without white space at its ends. -/
def block (text : List Char) : List Char :=
  trim (rewrite callReference (rewrite crossReference (replaceLiterals text)))

/-- The language up to the mark behind it: as short as possible, not empty, and on one line. -/
def languageUpTo (mark : List Char) : List Char → Option (List Char)
  | [] => none
  | c :: rest =>
    if c = '\n' then none
    else if mark.isPrefixOf rest then some [c]
    else (languageUpTo mark rest).map (c :: ·)

/-- What stands before the language of code. -/
def languageStart : List Char := "|[<!-- language=\"".toList

/-- What stands behind the language of code. -/
def languageStop : List Char := "\" -->".toList

/-- The start of code in a named language. -/
def annotatedFence : Rule := fun text =>
  if languageStart.isPrefixOf text then
    (languageUpTo languageStop (text.drop languageStart.length)).map fun language =>
      (languageStart.length + language.length + languageStop.length, fence ++ lowercase language)
  else none

/-- The text with every piece of code in a fence; code without a language counts as C. -/
def fenceCode (text : List Char) : List Char :=
  replaceAll "]|".toList fence
    (replaceAll "|[".toList (fence ++ ['c']) (rewrite annotatedFence text))

/-- The text with a comment mark behind every line feed. -/
def markLines (text : List Char) : List Char := replaceAll ['\n'] ('\n' :: linePrefix) text

/-- A text as a comment of whole lines; the empty text gives none. -/
def lines (text : List Char) : List Char :=
  if text = [] then [] else linePrefix ++ block (markLines (fenceCode text))

/-- A text behind an annotation, on the same line; the empty text gives nothing. -/
def trailing (text : List Char) : List Char :=
  if text = [] then [] else marker ++ block (foldBlanks text)

/-- `lines` on strings. -/
def linesText (text : String) : String := String.ofList (lines text.toList)

/-- `trailing` on strings. -/
def trailingText (text : String) : String := String.ofList (trailing text.toList)

end GirStubs.Lua.Comment
