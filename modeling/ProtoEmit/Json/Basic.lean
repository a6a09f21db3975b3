/-
  JSON documents.

  The members of an object keep the order of the text and may repeat a key, in which case the last one
  counts. Integers are unbounded and apart from all other numbers.
-/

import ProtoEmit.Number.Decimal

namespace ProtoEmit

/-- A JSON document. -/
inductive Json where
  | null
  | bool (b : Bool)
  | integer (n : Int)
  | number (x : Number)
  | string (s : String)
  | array (items : List Json)
  | object (members : List (String × Json))
deriving Repr, Inhabited

namespace Json

/-- The value of the last member with a key. -/
def lookup {α : Type} (key : String) : List (String × α) → Option α
  | [] => none
  | (k, v) :: rest =>
    match lookup key rest with
    | some w => some w
    | none => if k = key then some v else none

/-- The value of a member of an object. -/
def get? (key : String) : Json → Option Json
  | .object members => lookup key members
  | _ => none

/-- The keys of members, each once, where it stands first. -/
def distinctKeys {α : Type} (members : List (String × α)) : List String :=
  (members.map (·.1)).eraseDups

/-- Members with each key once: in the place of its first member, with the value of its last. -/
def settle {α : Type} (members : List (String × α)) : List (String × α) :=
  (distinctKeys members).filterMap fun k => (lookup k members).map fun v => (k, v)

/-- An array of texts. -/
def strings (ss : List String) : Json :=
  .array (ss.map .string)

end Json

end ProtoEmit
