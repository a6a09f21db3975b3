/-
  How messages spell a value that stands where a tag should: a text as it is, everything else in the notation
  of literals, with texts inside arrays and objects in quotes.
-/

import ProtoEmit.Json.Basic
import ProtoEmit.Number.Shortest
import ProtoEmit.Text.Quoted

namespace ProtoEmit.Json

/-- Whether a value is the given text. -/
def isText (s : String) : Json → Bool
  | .string t => t == s
  | _ => false

mutual

/-- The literal of a value. -/
def literal : Json → String
  | .null => "None"
  | .bool b => if b then "True" else "False"
  | .integer n => toString n
  | .number x => x.toDouble.text
  | .string s => Text.quote s
  | .array items => "[" ++ ", ".intercalate (itemLiterals items) ++ "]"
  | .object members =>
    let written := (settle (memberLiterals members)).map fun (k, v) => Text.quote k ++ ": " ++ v
    "\x7b" ++ ", ".intercalate written ++ "\x7d"
termination_by structural j => j

def itemLiterals : List Json → List String
  | [] => []
  | v :: rest => literal v :: itemLiterals rest
termination_by structural vs => vs

def memberLiterals : List (String × Json) → List (String × String)
  | [] => []
  | (k, v) :: rest => (k, literal v) :: memberLiterals rest
termination_by structural ms => ms

end

/-- The spelling of a value in a message. -/
def spelling : Json → String
  | .string s => s
  | j => literal j

end ProtoEmit.Json
