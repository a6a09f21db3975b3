/-
  The cells that text fills on a terminal.

  A character fills no cell, one or two. A joiner makes one sign of the characters around it, which is as wide as
  the first of them; the picture selector widens some characters before it. Text is cut between signs, never
  inside one.
-/

import ProtoEmit.Terminal.WidthTable
import ProtoEmit.Text.Range

namespace ProtoEmit.Terminal

/-! ## Widths -/

/-- How many cells a character fills. -/
def charWidth (c : Char) : Nat :=
  if Text.inRanges zeroWidthRanges c then 0
  else if Text.inRanges wideRanges c then 2
  else 1

/-- The character that joins its neighbours to one sign. -/
def joiner : Char := Char.ofNat 0x200D

/-- The character that asks for the picture form of the sign before it. -/
def pictureSelector : Char := Char.ofNat 0xFE0F

/-- How many cells the picture selector adds to a character. -/
def pictureWidth (c : Char) : Nat :=
  if Text.inRanges pictureRanges c then 1 else 0

/-- What is known of a text that is measured character by character. -/
structure Measure where
  width : Nat := 0
  /-- The last character that filled a cell, unless a picture selector came after it. -/
  last : Option Char := none
  /-- Whether a joiner came just before. -/
  joined : Bool := false

/-- Measures one more character. -/
def Measure.add (m : Measure) (c : Char) : Measure :=
  if m.joined then { m with joined := false }
  else if c = joiner then { m with joined := true }
  else if c = pictureSelector then { m with width := m.width + (m.last.map pictureWidth).getD 0, last := none }
  else if charWidth c = 0 then m
  else { m with width := m.width + charWidth c, last := some c }

/-- How many cells a text fills. -/
def textWidth (cs : List Char) : Nat :=
  (cs.foldl Measure.add {}).width

/-! ## Signs -/

/-- Characters that are shown as one, and the cells that they fill. -/
structure Sign where
  text : List Char
  width : Nat
deriving DecidableEq, Repr

/-- A text that is cut into signs character by character; the signs stand in reverse. -/
structure Signing where
  signs : List Sign := []
  last : Option Char := none
  joined : Bool := false

/-- Adds a character to the last sign and widens the sign; a first character is a sign of its own. -/
def Signing.extend (s : Signing) (c : Char) (cells : Nat) : Signing :=
  match s.signs with
  | [] => { s with signs := [⟨[c], cells⟩] }
  | sign :: before => { s with signs := ⟨sign.text ++ [c], sign.width + cells⟩ :: before }

/-- Reads one more character. -/
def Signing.add (s : Signing) (c : Char) : Signing :=
  if s.joined then { s.extend c 0 with joined := false }
  else if c = joiner then { s.extend c 0 with joined := !s.signs.isEmpty }
  else if c = pictureSelector then { s.extend c ((s.last.map pictureWidth).getD 0) with last := none }
  else if charWidth c = 0 then s.extend c 0
  else { s with signs := ⟨[c], charWidth c⟩ :: s.signs, last := some c }

/-- The signs of a text. -/
def signs (cs : List Char) : List Sign :=
  (cs.foldl Signing.add {}).signs.reverse

/-! ## Cutting and filling -/

/-- The text of signs as far as it fits into `room` cells. A sign that fits only in part leaves a blank. -/
def fitting (room : Nat) : List Sign → List Char
  | [] => []
  | sign :: rest =>
    if room = 0 then []
    else if sign.width ≤ room then sign.text ++ fitting (room - sign.width) rest
    else [' ']

/-- The start of a text that fits into `width` cells. -/
def crop (width : Nat) (cs : List Char) : List Char :=
  fitting width (signs cs)

/-- Blanks. -/
def blanks (count : Nat) : List Char :=
  List.replicate count ' '

/-- A text filled up with blanks. -/
def padRight (width : Nat) (cs : List Char) : List Char :=
  cs ++ blanks (width - textWidth cs)

/-- A text with blanks on both sides, the left ones no more than the right ones. -/
def centre (width : Nat) (cs : List Char) : List Char :=
  let free := width - textWidth cs
  blanks (free / 2) ++ cs ++ blanks (free - free / 2)

end ProtoEmit.Terminal
