/-
  The lines of text on a terminal.

  Characters that only move the cursor are not shown, and tabs are filled up with blanks. Where lines have a
  width, a line is broken before a word that does not fit any more, and a word that is wider than the line is cut
  and ends with a mark.
-/

import ProtoEmit.Terminal.Cells
import ProtoEmit.Text.Blank
import ProtoEmit.Text.Split

namespace ProtoEmit.Terminal

/-- Characters that only move the cursor. -/
def isCursorControl (c : Char) : Bool :=
  Text.inRanges [(7, 8), (11, 13)] c

/-- The characters of a text that are shown. -/
def visible (s : String) : List Char :=
  s.toList.filter fun c => !isCursorControl c

/-! ## Tabs -/

/-- The distance between the columns that tabs lead to. -/
def tabWidth : Nat := 8

/-- What stands before a tab, filled up to the next column of tabs: by one blank at least. -/
def beforeTab (cs : List Char) : List Char :=
  let filled := cs ++ [' ']
  filled ++ blanks ((tabWidth - textWidth filled % tabWidth) % tabWidth)

/-- A line with blanks for its tabs. -/
def expandTabs (cs : List Char) : List Char :=
  let parts := Text.pieces '\t' cs
  parts.dropLast.flatMap beforeTab ++ parts.getLastD []

/-- The lines of a text, however long. -/
def lines (s : String) : List (List Char) :=
  (Text.pieces '\n' (visible s)).map expandTabs

/-! ## Lines of a width -/

/-- Cuts a text before every character that is no blank and follows one. -/
def cutBeforeWords : List Char → List (List Char)
  | [] => []
  | c :: cs =>
    match cutBeforeWords cs with
    | [] => [[c]]
    | w :: ws => if Text.isBlank c && !w.head?.any Text.isBlank then [c] :: w :: ws else (c :: w) :: ws

/-- The words of a line, each with the blanks after it, and the first also with those before it. -/
def words (cs : List Char) : List (List Char) :=
  match cutBeforeWords (cs.dropWhile Text.isBlank) with
  | [] => [cs]
  | w :: ws => (cs.takeWhile Text.isBlank ++ w) :: ws

/-- Lines that are filled word by word: the full ones in reverse, and the last one with the cells it fills. -/
structure Filling where
  full : List (List Char) := []
  line : List Char := []
  cells : Nat := 0

/-- Starts a line with a word, unless the line before it is the first and empty. -/
def Filling.startLine (f : Filling) (word : List Char) : Filling :=
  ⟨if f.full.isEmpty && f.line.isEmpty then [] else f.line :: f.full, word, textWidth word⟩

/-- Adds a word. The blanks after it need not fit. -/
def Filling.add (width : Nat) (f : Filling) (word : List Char) : Filling :=
  if f.cells + textWidth (Text.trimEnd word) ≤ width then
    ⟨f.full, f.line ++ word, f.cells + textWidth word⟩
  else f.startLine word

/-- The lines into which a line is broken. -/
def breakLine (width : Nat) (cs : List Char) : List (List Char) :=
  let f := (words cs).foldl (Filling.add width) {}
  (f.line :: f.full).reverse

/-- A line of more than `width` characters without blanks at its end, as far as they are too many. -/
def dropExcessBlanks (width : Nat) (cs : List Char) : List Char :=
  let atEnd := cs.length - (Text.trimEnd cs).length
  cs.take (cs.length - min atEnd (cs.length - width))

/-- The mark at the end of a line that is cut. -/
def ellipsis : Char := '…'

/-- A line, cut if it is wider than `width`. -/
def cutLine (width : Nat) (cs : List Char) : List Char :=
  if width < textWidth cs then crop (width - 1) cs ++ [ellipsis] else cs

/-- The lines of a text, none wider than `width`. -/
def linesWithin (width : Nat) (s : String) : List (List Char) :=
  (lines s).flatMap fun line =>
    (breakLine width line).map fun cs => cutLine width (dropExcessBlanks width cs)

/-- The width of the widest line of a text. Tabs do not count, and every line end does. -/
def widestLine (s : String) : Nat :=
  let ended := (visible s).map fun c => if Text.isLineEnd c then '\n' else c
  ((Text.pieces '\n' ended).map textWidth).foldl max 0

end ProtoEmit.Terminal
