import GirStubs.Unicode.Ranges

/-! # White space

The property White_Space: the ASCII controls from tab to carriage return, the
space, and the spaces and separators of the other scripts. A zero-width space
has no such property.
-/

namespace GirStubs.Unicode

/-- The code points with the property White_Space, in ascending order. -/
def whiteSpaceRanges : List (Nat × Nat) :=
  [(0x9, 0xD), (0x20, 0x20), (0x85, 0x85), (0xA0, 0xA0), (0x1680, 0x1680), (0x2000, 0x200A),
   (0x2028, 0x2029), (0x202F, 0x202F), (0x205F, 0x205F), (0x3000, 0x3000)]

/-- A character with the property White_Space. -/
def isWhiteSpace (c : Char) : Bool := inRanges whiteSpaceRanges c

end GirStubs.Unicode
