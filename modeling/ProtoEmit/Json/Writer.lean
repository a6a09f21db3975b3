/-
  JSON text of documents, without blanks. Only what a string cannot hold is escaped.
-/

import ProtoEmit.Json.Basic
import ProtoEmit.Text.Quoted

namespace ProtoEmit.Json

/-- The spelling of a character inside a string. -/
def charText (c : Char) : String :=
  if c = '"' then "\\\""
  else if c = '\\' then "\\\\"
  else if c.toNat < 0x20 then "\\u" ++ Text.hexPadded 4 c.toNat
  else String.singleton c

/-- A string in quotation marks. -/
def stringText (s : String) : String :=
  "\"" ++ String.join (s.toList.map charText) ++ "\""

/-- The text of a number. The digits of a decimal are written as a fraction, where there may be any number of
    them. -/
def numberText : Number → String
  | .decimal d =>
    (if d.negative then "-" else "") ++ "0." ++ toString d.digits
      ++ "e" ++ toString (d.exponent + (decimalLength d.digits : Int))
  | .infinity negative => if negative then "-Infinity" else "Infinity"
  | .nan => "NaN"

mutual

/-- The text of a document. -/
def text : Json → String
  | .null => "null"
  | .bool b => if b then "true" else "false"
  | .integer n => toString n
  | .number x => numberText x
  | .string s => stringText s
  | .array items => "[" ++ ",".intercalate (itemTexts items) ++ "]"
  | .object members => "\x7b" ++ ",".intercalate (memberTexts members) ++ "\x7d"
termination_by structural j => j

/-- The texts of the items of an array. -/
def itemTexts : List Json → List String
  | [] => []
  | v :: rest => text v :: itemTexts rest
termination_by structural vs => vs

/-- The texts of the members of an object. -/
def memberTexts : List (String × Json) → List String
  | [] => []
  | (k, v) :: rest => (stringText k ++ ":" ++ text v) :: memberTexts rest
termination_by structural ms => ms

end

end ProtoEmit.Json
