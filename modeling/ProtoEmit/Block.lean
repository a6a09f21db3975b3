/-
  Blocks: the structure of the emitted text, and its lines.

  A block stands for one `enum` or `message` with everything in the order of the output. Writing it down is a
  matter of indentation only.
-/

import ProtoEmit.Schema.Basic
import ProtoEmit.Text.Order

namespace ProtoEmit

/-- The line of a field. -/
structure FieldLine where
  repeated : Bool
  type : String
  name : String
  tag : Int
  unpacked : Bool
deriving DecidableEq, Repr

/-- An `enum` with its values in the order of the output. -/
structure EnumBlock where
  origin : String
  name : String
  /-- Whether two values have one number. -/
  aliased : Bool
  values : List EnumValue
  /-- Whether the first value was added because no declared one is zero. -/
  inventedZero : Bool
deriving DecidableEq, Repr

/-- An `enum` or a `message` in the order of the output: nested blocks, the fields before the group of
    alternatives, the group, and the fields after it. -/
inductive Block where
  | enumeration (e : EnumBlock)
  | message (origin name : String) (nested : List Block) (before group after : List FieldLine)
deriving Repr

/-- One step of indentation. -/
def indentStep : String := "\t"

/-- The text of a field's line. Numbers are written out however long they are; that a number of more than 4300 digits
    is not printed is left out, here and at the values of an enumeration. -/
def FieldLine.text (indent : String) (f : FieldLine) : String :=
  indent ++ (if f.repeated then "repeated " else "") ++ f.type ++ " " ++ f.name ++ " = " ++ toString f.tag
    ++ (if f.unpacked then " [packed=false]" else "") ++ ";"

/-- The comment that names what a block stands for, if it is wanted and known. -/
def originLines (references : Bool) (indent origin : String) : List String :=
  if references && origin != "" then [indent ++ "// ref: " ++ origin] else []

/-- The line of a value; its name starts with that of the enumeration. -/
def EnumBlock.valueLine (e : EnumBlock) (indent : String) (v : EnumValue) : String :=
  indent ++ e.name ++ "_" ++ v.name ++ " = " ++ toString v.number ++ ";"

def EnumBlock.lines (references : Bool) (indent : String) (e : EnumBlock) : List String :=
  let inner := indent ++ indentStep
  originLines references indent e.origin
    ++ [indent ++ "enum " ++ e.name ++ " \x7b"]
    ++ (if e.aliased then [inner ++ "option allow_alias = true;"] else [])
    ++ e.values.map (e.valueLine inner)
    ++ [indent ++ "\x7d", ""]

/-- The block of a group of alternatives; an empty group has none. -/
def groupLines (indent : String) (group : List FieldLine) : List String :=
  if group.isEmpty then []
  else [indent ++ "oneof message \x7b"] ++ group.map (FieldLine.text (indent ++ indentStep)) ++ [indent ++ "\x7d"]

namespace Block

def isEnumeration : Block → Bool
  | .enumeration _ => true
  | .message .. => false

def name : Block → String
  | .enumeration e => e.name
  | .message _ name _ _ _ _ => name

mutual

/-- The lines of a block; `references` asks for the comments on origins. -/
def lines (references : Bool) (indent : String) : Block → List String
  | .enumeration e => e.lines references indent
  | .message origin name nested before group after =>
    originLines references indent origin
      ++ [indent ++ "message " ++ name ++ " \x7b"]
      ++ linesAll references (indent ++ indentStep) nested
      ++ before.map (FieldLine.text (indent ++ indentStep))
      ++ groupLines (indent ++ indentStep) group
      ++ after.map (FieldLine.text (indent ++ indentStep))
      ++ [indent ++ "\x7d", ""]
termination_by structural b => b

/-- The lines of blocks one after the other. -/
def linesAll (references : Bool) (indent : String) : List Block → List String
  | [] => []
  | b :: rest => lines references indent b ++ linesAll references indent rest
termination_by structural bs => bs

end

mutual

/-- The enumerations of a block whose zero was added, in the order of the output. -/
def inventedZeros : Block → List String
  | .enumeration e => if e.inventedZero then [e.name] else []
  | .message _ _ nested _ _ _ => inventedZerosAll nested
termination_by structural b => b

def inventedZerosAll : List Block → List String
  | [] => []
  | b :: rest => inventedZeros b ++ inventedZerosAll rest
termination_by structural bs => bs

end

end Block

/-- The enumerations in the order of their names, then the messages in the order of theirs. -/
def enumerationsFirst {α : Type} (isEnumeration : α → Bool) (name : α → String) (items : List α) : List α :=
  Text.sortByName name (items.filter isEnumeration)
    ++ Text.sortByName name (items.filter fun a => !isEnumeration a)

end ProtoEmit
