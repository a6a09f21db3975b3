/-
  Documents under construction.

  A table comes into being by a header of its own, by the header of a table inside it, or by a dotted key. A
  header may name a table once, and neither a header nor a dotted key of a later section opens a table that a
  dotted key has made. What an inline value holds cannot be added to.
-/

import ProtoEmit.Toml.Basic

namespace ProtoEmit.Toml

/-- How a table has come into being. Sections are counted by their headers. -/
inductive Origin where
  /-- By the header of a table inside it. -/
  | implied
  /-- By a header of its own. -/
  | declared
  /-- By a dotted key in a section. -/
  | dotted (made : Nat)
deriving DecidableEq, Repr

/-- A part of a document under construction. -/
inductive Node where
  | value (v : Value)
  | table (origin : Origin) (entries : List (String × Node))
  /-- An array of tables, the last of which is open. -/
  | tables (earlier : List Node) (last : List (String × Node))
deriving Repr

abbrev Entries := List (String × Node)

/-- Whether a table is closed to headers and dotted keys of a section. -/
def Origin.isClosed (current : Nat) : Origin → Bool
  | .implied => false
  | .declared => true
  | .dotted made => made != current

namespace Entries

/-- Changes the node of a key in its place, or adds one at the end; `none` forbids the change. -/
def alter (f : Option Node → Option Node) (key : String) : Entries → Option Entries
  | [] => (f none).map fun n => [(key, n)]
  | (k, n) :: rest =>
    if k = key then (f (some n)).map fun n' => (k, n') :: rest
    else (alter f key rest).map ((k, n) :: ·)

/-- Opens the table of a header. -/
def declareTable (current : Nat) : List String → Entries → Option Entries
  | [], entries => some entries
  | [k], entries =>
    entries.alter (fun
      | none => some (.table .declared [])
      | some (.table origin es) => if origin.isClosed current then none else some (.table .declared es)
      | some _ => none) k
  | k :: ks, entries =>
    entries.alter (fun
      | none => (declareTable current ks []).map (.table .implied)
      | some (.table origin es) => (declareTable current ks es).map (.table origin)
      | some (.tables earlier last) => (declareTable current ks last).map (.tables earlier)
      | some (.value _) => none) k

/-- Adds a table to the array of a header. -/
def declareItem : List String → Entries → Option Entries
  | [], entries => some entries
  | [k], entries =>
    entries.alter (fun
      | none => some (.tables [] [])
      | some (.tables earlier last) => some (.tables (earlier ++ [.table .declared last]) [])
      | some _ => none) k
  | k :: ks, entries =>
    entries.alter (fun
      | none => (declareItem ks []).map (.table .implied)
      | some (.table origin es) => (declareItem ks es).map (.table origin)
      | some (.tables earlier last) => (declareItem ks last).map (.tables earlier)
      | some (.value _) => none) k

/-- Gives a key its value. -/
def assign (current : Nat) (v : Value) : List String → Entries → Option Entries
  | [], entries => some entries
  | [k], entries =>
    entries.alter (fun
      | none => some (.value v)
      | some _ => none) k
  | k :: ks, entries =>
    entries.alter (fun
      | none => (assign current v ks []).map (.table (.dotted current))
      | some (.table origin es) =>
        if origin.isClosed current then none else (assign current v ks es).map (.table (.dotted current))
      | some _ => none) k

/-- Changes the entries of the table that a header has opened. -/
def within (change : Entries → Option Entries) : List String → Entries → Option Entries
  | [], entries => change entries
  | k :: ks, entries =>
    entries.alter (fun
      | some (.table origin es) => (within change ks es).map (.table origin)
      | some (.tables earlier last) => (within change ks last).map (.tables earlier)
      | _ => none) k

end Entries

mutual

/-- The value that a node has become. -/
def Node.toValue : Node → Value
  | .value v => v
  | .table _ entries => .table (Node.toTable entries)
  | .tables earlier last => .array (Node.toValues earlier ++ [.table (Node.toTable last)])
termination_by structural n => n

def Node.toValues : List Node → List Value
  | [] => []
  | n :: rest => n.toValue :: Node.toValues rest
termination_by structural ns => ns

def Node.toTable : List (String × Node) → Table
  | [] => []
  | (k, n) :: rest => (k, n.toValue) :: Node.toTable rest
termination_by structural es => es

end

end ProtoEmit.Toml
