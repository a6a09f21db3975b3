/-
  TOML documents.

  Tables keep the order in which their keys first appear. Dates and times are kept as they are written.
-/

import ProtoEmit.Number.Decimal

namespace ProtoEmit.Toml

/-- A value of a TOML document. -/
inductive Value where
  | string (s : String)
  | integer (n : Int)
  | number (x : Number)
  | boolean (b : Bool)
  | date (written : String)
  | time (written : String)
  | dateTime (written : String)
  | array (items : List Value)
  | table (entries : List (String × Value))
deriving Repr, Inhabited

/-- A table: its keys and their values, in order. -/
abbrev Table := List (String × Value)

end ProtoEmit.Toml
