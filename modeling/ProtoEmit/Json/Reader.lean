/-
  From tokens to documents.

  The reader keeps the containers that are still open as a list, innermost first, so it takes the tokens one by
  one without recursion, and the nesting limit is a bound on the length of that list.
-/

import ProtoEmit.Json.Token

namespace ProtoEmit.Json

/-- A container that is still open, with what it holds so far in reverse. -/
inductive Frame where
  | array (items : List Json)
  | object (members : List (String × Json)) (key : String)
deriving Repr

/-- What may come next. -/
inductive Reading where
  /-- A value. -/
  | value (stack : List Frame)
  /-- The first item of an array, or its end. -/
  | firstItem (stack : List Frame)
  /-- A key; or, if the object is empty so far, its end. -/
  | key (empty : Bool) (members : List (String × Json)) (stack : List Frame)
  /-- The colon after a key. -/
  | colon (members : List (String × Json)) (key : String) (stack : List Frame)
  /-- A comma, the end of the container, or the end of the text. -/
  | after (v : Json) (stack : List Frame)
deriving Repr

/-- Reads the first token of a value, which stands inside `limit` containers at most. -/
def Reading.start (limit : Nat) (stack : List Frame) (t : Token) : Option Reading :=
  if limit < stack.length then none
  else match t with
    | .value v => some (.after v stack)
    | .openArray => some (.firstItem stack)
    | .openObject => some (.key true [] stack)
    | _ => none

/-- Reads one more token. -/
def Reading.step (limit : Nat) : Reading → Token → Option Reading
  | .value stack, t => Reading.start limit stack t
  | .firstItem stack, .closeArray => some (.after (.array []) stack)
  | .firstItem stack, t => Reading.start limit (.array [] :: stack) t
  | .key _ members stack, .value (.string k) => some (.colon members k stack)
  | .key true _ stack, .closeObject => some (.after (.object []) stack)
  | .colon members k stack, .colon => some (.value (.object members k :: stack))
  | .after v (.array items :: stack), .comma => some (.value (.array (v :: items) :: stack))
  | .after v (.array items :: stack), .closeArray => some (.after (.array (v :: items).reverse) stack)
  | .after v (.object members k :: stack), .comma => some (.key false ((k, v) :: members) stack)
  | .after v (.object members k :: stack), .closeObject =>
    some (.after (.object ((k, v) :: members).reverse) stack)
  | _, _ => none

/-- The document that has been read when the tokens end. -/
def Reading.finish : Reading → Option Json
  | .after v [] => some v
  | _ => none

/-- The document that a text writes, if none of its values stands inside more than `limit` containers. -/
def readWithin (limit : Nat) (text : String) : Option Json := do
  let tokens ← tokens? text.toList
  let last ← tokens.foldlM (Reading.step limit) (.value [])
  last.finish

/-- The number of containers that a value may stand in. -/
def maxDepth : Nat := 200

/-- The document that a text writes. -/
def read? (text : String) : Option Json :=
  readWithin maxDepth text

end ProtoEmit.Json
