import GirStubs.Unicode.WhiteSpace

/-! # White space in a text

Trimming both ends, and folding every run of white space to one space.
-/

namespace GirStubs.Text

open Unicode

/-- The text without white space at its ends. -/
def trim (text : List Char) : List Char :=
  ((text.dropWhile isWhiteSpace).reverse.dropWhile isWhiteSpace).reverse

/-- The text with every run of white space folded to one space; `afterBlank` tells whether the
character before it was white space. -/
def foldBlanksAfter (afterBlank : Bool) : List Char → List Char
  | [] => []
  | c :: rest =>
    if isWhiteSpace c then
      if afterBlank then foldBlanksAfter true rest else ' ' :: foldBlanksAfter true rest
    else c :: foldBlanksAfter false rest

/-- The text with every run of white space folded to one space. -/
def foldBlanks (text : List Char) : List Char := foldBlanksAfter false text

/-- The text holds nothing but white space. -/
def isBlank (text : List Char) : Bool := text.all isWhiteSpace

end GirStubs.Text
