/-
  Pictures in text.

  A picture is written as its name between two colons, in any case. After the name `-emoji` or `-text` may stand, and
  asks for the form of the picture. Two colons with another word between them stay as they are, and the second of
  them starts no further name.
-/

import ProtoEmit.Terminal.Cells
import ProtoEmit.Terminal.PictureTable
import ProtoEmit.Text.Blank
import ProtoEmit.Text.LowerCase
import ProtoEmit.Text.Split

namespace ProtoEmit.Terminal

/-- The picture with a name. -/
def picture? (name : List Char) : Option String :=
  let name := Text.lower (String.ofList name)
  pictureGroups.findSome? fun group => group.lookup name

/-- The character that asks for the plain form of the sign before it. -/
def textSelector : Char := Char.ofNat 0xFE0E

/-- The endings of a word that ask for a form, and the characters that do so. -/
def pictureForms : List (List Char × Char) :=
  [("-emoji".toList, pictureSelector), ("-text".toList, textSelector)]

/-- A word as a name and the characters for the form of its picture. -/
def nameAndForm (word : List Char) : List Char × List Char :=
  match pictureForms.find? fun (ending, _) => ending.isSuffixOf word with
  | some (ending, selector) => (word.take (word.length - ending.length), [selector])
  | none => (word, [])

/-- What a word between colons is shown as, the colons included. -/
def shownWord (word : List Char) : List Char :=
  let (name, form) := nameAndForm word
  match picture? name with
  | some picture => picture.toList ++ form
  | none => ':' :: word ++ [':']

/-- The rest of a text, given by its pieces between colons, from a colon on that may start a name. A name has no
    blanks. -/
def shownPieces : List (List Char) → List Char
  | [] => []
  | [last] => ':' :: last
  | word :: next :: rest =>
    if word.any Text.isBlank then ':' :: word ++ shownPieces (next :: rest)
    else shownWord word ++ next ++ shownPieces rest

/-- A text with pictures in the place of their names. -/
def withPictures (cs : List Char) : List Char :=
  match Text.pieces ':' cs with
  | [] => []
  | first :: rest => first ++ shownPieces rest

end ProtoEmit.Terminal
