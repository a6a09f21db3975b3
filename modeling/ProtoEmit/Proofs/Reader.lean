/-
  A reader for the lines of a message.

  Each line is cut into words, the words are taken for a statement, and the statements are run on a stack of the
  blocks that are open. What comes out is the shape of the message: the names, numbers and types that the text
  shows, nested as the blocks are. The reader knows nothing of declarations, and it refuses what it cannot place.
-/

import Mathlib.Data.List.Basic
import ProtoEmit.Block
import ProtoEmit.Number.Decimal
import ProtoEmit.Text.Split

namespace ProtoEmit

/-! ## Shapes -/

/-- A field as the output shows it. -/
structure FieldShape where
  repeated : Bool
  type : String
  name : String
  tag : Int
  /-- Whether the field is one of the alternatives. -/
  inGroup : Bool
deriving DecidableEq, Repr

/-- A type as the output shows it. -/
inductive Shape where
  | enumeration (name : String) (values : List EnumValue)
  | message (name : String) (nested : List Shape) (fields : List FieldShape)
deriving Repr

/-! ## Statements -/

/-- What a line says. -/
inductive Statement where
  | blank
  | openEnumeration (name : String)
  | openMessage (name : String)
  | openGroup
  | close
  | allowAlias
  | value (name : String) (number : Int)
  | field (repeated : Bool) (type name : String) (tag : Int)
deriving DecidableEq, Repr

/-- The words of a line, its indentation apart. -/
def words (line : String) : List String :=
  Text.split ' ' (String.ofList (line.toList.dropWhile (· == '\t')))

/-- The number that a word writes: digits, or a minus and digits. -/
def number? (word : String) : Option Int :=
  let negative := word.toList.head? == some '-'
  let digits := if negative then word.toList.tail else word.toList
  if digits.isEmpty || !digits.all Char.isDigit then none
  else some (if negative then -(ofDigits digits : Int) else ofDigits digits)

/-- The number before a semicolon. -/
def numberBefore? (word : String) : Option Int :=
  match Text.split ';' word with
  | [number, rest] => if rest = "" then number? number else none
  | _ => none

/-- The statement that some words make. -/
def statement? : List String → Option Statement
  | [a] => if a = "" then some .blank else if a = "\x7d" then some .close else none
  | [a, b, c] =>
    if c = "\x7b" then
      if a = "enum" then some (.openEnumeration b)
      else if a = "message" then some (.openMessage b)
      else if a = "oneof" then some .openGroup
      else none
    else if b = "=" then (numberBefore? c).map (.value a)
    else none
  | [a, b, c, d] =>
    if a = "option" ∧ b = "allow_alias" ∧ c = "=" ∧ d = "true;" then some .allowAlias
    else if c = "=" then (numberBefore? d).map (.field false a b)
    else none
  | [a, b, c, d, e] =>
    if a = "repeated" ∧ d = "=" then (numberBefore? e).map (.field true b c) else none
  | [a, b, c, d, e, f] =>
    if a = "repeated" ∧ d = "=" ∧ f = "[packed=false];" then (number? e).map (.field true b c) else none
  | _ => none

/-! ## The machine -/

/-- A block that is open, with what has been read of it. The outermost one is the text itself. -/
inductive Frame where
  | text (done : List Shape)
  | enumeration (name : String) (values : List EnumValue)
  | message (name : String) (nested : List Shape) (fields : List FieldShape) (inGroup : Bool)
deriving Repr

/-- Puts a type that has been read into the block around it. -/
def putShape (shape : Shape) : List Frame → Option (List Frame)
  | .text done :: outer => some (.text (done ++ [shape]) :: outer)
  | .message name nested fields false :: outer => some (.message name (nested ++ [shape]) fields false :: outer)
  | _ => none

/-- The name of a value without that of its enumeration. -/
def valueName? (enumeration full : String) : Option String :=
  (full.toList.dropPrefix? (enumeration ++ "_").toList).map String.ofList

/-- Runs one statement. -/
def Statement.run : Statement → List Frame → Option (List Frame)
  | .blank, frames => some frames
  | .openEnumeration name, frames => some (.enumeration name [] :: frames)
  | .openMessage name, frames => some (.message name [] [] false :: frames)
  | .openGroup, .message name nested fields false :: outer => some (.message name nested fields true :: outer)
  | .close, .message name nested fields true :: outer => some (.message name nested fields false :: outer)
  | .close, .message name nested fields false :: outer => putShape (.message name nested fields) outer
  | .close, .enumeration name values :: outer => putShape (.enumeration name values) outer
  | .allowAlias, .enumeration name values :: outer => some (.enumeration name values :: outer)
  | .value full number, .enumeration name values :: outer =>
    (valueName? name full).map fun v => .enumeration name (values ++ [⟨v, number⟩]) :: outer
  | .field repeated type fieldName tag, .message name nested fields inGroup :: outer =>
    some (.message name nested (fields ++ [⟨repeated, type, fieldName, tag, inGroup⟩]) inGroup :: outer)
  | _, _ => none

/-- Reads one line. -/
def readLine (frames : List Frame) (line : String) : Option (List Frame) :=
  (statement? (words line)).bind fun s => s.run frames

/-- Reads lines one after the other. -/
def readLines (frames : List Frame) (lines : List String) : Option (List Frame) :=
  lines.foldlM readLine frames

/-- The shape of the one type that some lines declare. -/
def readShape (lines : List String) : Option Shape :=
  match readLines [.text []] lines with
  | some [.text [shape]] => some shape
  | _ => none

/-! ## Laws of the machine -/

theorem readLines_nil (frames : List Frame) : readLines frames [] = some frames :=
  rfl

theorem readLines_cons (frames : List Frame) (line : String) (rest : List String) :
    readLines frames (line :: rest) = (readLine frames line).bind fun frames' => readLines frames' rest := by
  unfold readLines
  rw [List.foldlM_cons]
  rfl

theorem readLines_append (frames : List Frame) (first rest : List String) :
    readLines frames (first ++ rest) = (readLines frames first).bind fun frames' => readLines frames' rest := by
  unfold readLines
  rw [List.foldlM_append]
  rfl

end ProtoEmit
