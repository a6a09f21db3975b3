/-
  Blanks: white space, the wider class of blanks that stand between words, and line ends.
-/

import ProtoEmit.Text.Range

namespace ProtoEmit.Text

/-- White space. -/
def isWhite (c : Char) : Bool :=
  inRanges
    [(0x9, 0xD), (0x20, 0x20), (0x85, 0x85), (0xA0, 0xA0), (0x1680, 0x1680), (0x2000, 0x200A), (0x2028, 0x2029),
      (0x202F, 0x202F), (0x205F, 0x205F), (0x3000, 0x3000)] c

/-- A blank between words: white space, or one of the four information separators. -/
def isBlank (c : Char) : Bool :=
  isWhite c || inRanges [(0x1C, 0x1F)] c

/-- A character that ends a line. -/
def isLineEnd (c : Char) : Bool :=
  inRanges [(0xA, 0xD), (0x1C, 0x1E), (0x85, 0x85), (0x2028, 0x2029)] c

/-- A text without its last characters as far as they are of class `p`. -/
def dropEndWhile (p : Char → Bool) (cs : List Char) : List Char :=
  (cs.reverse.dropWhile p).reverse

/-- A text without the blanks at its end. -/
def trimEnd (cs : List Char) : List Char :=
  dropEndWhile isBlank cs

end ProtoEmit.Text
