/-
  From TOML text to documents.

  A document is read statement by statement: a header, or a key with its value. Values nest, and each call for a
  value inside another one starts further on in the text.
-/

import ProtoEmit.Toml.Document
import ProtoEmit.Toml.Lexeme

namespace ProtoEmit.Toml

/-- A value without parts. -/
def scalar (cs : List Char) : Except Fault (Value × List Char) :=
  match cs with
  | '"' :: _ => (wellFormed (string cs)).map fun (s, rest) => (.string s, rest)
  | '\'' :: _ => (wellFormed (string cs)).map fun (s, rest) => (.string s, rest)
  | _ =>
    match dropText? "true".toList cs, dropText? "false".toList cs with
    | some rest, _ => .ok (.boolean true, rest)
    | _, some rest => .ok (.boolean false, rest)
    | none, none =>
      match moment cs with
      | .found v rest => .ok (v, rest)
      | .impossible => .error .malformed
      | .absent => number cs

/-- A key, the sign after it, and the blanks before its value. -/
def keyAndSign (cs : List Char) : Option (List String × List Char) := do
  let (k, rest) ← key cs
  let rest ← char '=' rest
  some (k, skipBlanks rest)

/-- By how many levels the items of an array stand below it. -/
def arrayLevels : Nat := 2

/-- By how many levels the members of an inline table stand below it. -/
def inlineTableLevels : Nat := 3

section Limited

-- the deepest level that a value may stand at
variable (limit : Nat)

mutual

/-- A value at a level of nesting. -/
def value (level : Nat) (cs : List Char) : Except Fault (Value × List Char) :=
  if limit < level then .error .tooDeep
  else match cs with
    | '[' :: rest =>
      match skipFiller rest with
      | none => .error .malformed
      | some (']' :: after) => .ok (.array [], after)
      | some start =>
        if start.length ≤ rest.length then
          (items (level + arrayLevels) start).map fun (vs, after) => (.array vs, after)
        else .error .malformed
    | '\x7b' :: rest =>
      match skipBlanks rest with
      | '\x7d' :: after => .ok (.table [], after)
      | start =>
        if start.length ≤ rest.length then
          (members (level + inlineTableLevels) [] start).map fun (es, after) => (.table (Node.toTable es), after)
        else .error .malformed
    | _ => scalar cs
termination_by (cs.length, 0)

/-- The items of an array from its first one on, and its end. -/
def items (level : Nat) (cs : List Char) : Except Fault (List Value × List Char) :=
  match value level cs with
  | .error fault => .error fault
  | .ok (v, rest) =>
    match skipFiller rest with
    | some (']' :: after) => .ok ([v], after)
    | some (',' :: more) =>
      match skipFiller more with
      | some (']' :: after) => .ok ([v], after)
      | some start =>
        if start.length < cs.length then (items level start).map fun (vs, after) => (v :: vs, after)
        else .error .malformed
      | none => .error .malformed
    | _ => .error .malformed
termination_by (cs.length, 1)

/-- The members of an inline table from the next one on, and its end; `entries` are those before. -/
def members (level : Nat) (entries : Entries) (cs : List Char) : Except Fault (Entries × List Char) :=
  match keyAndSign cs with
  | none => .error .malformed
  | some (k, start) =>
    if start.length < cs.length then
      match value level start with
      | .error fault => .error fault
      | .ok (v, rest) =>
        match entries.assign 0 v k with
        | none => .error .malformed
        | some entries =>
          match skipBlanks rest with
          | '\x7d' :: after => .ok (entries, after)
          | ',' :: more =>
            let next := skipBlanks more
            if next.length < cs.length then members level entries next else .error .malformed
          | _ => .error .malformed
    else .error .malformed
termination_by (cs.length, 1)

end

/-- A document up to some statement: the entries so far, the header of the section, and its number. -/
structure Progress where
  entries : Entries := []
  header : List String := []
  current : Nat := 0

/-- Reads a header after its first bracket. -/
def headerStatement (p : Progress) (cs : List Char) : Option (Progress × List Char) :=
  let current := p.current + 1
  match cs with
  | '[' :: rest => do
    let (k, rest) ← key (skipBlanks rest)
    let entries ← p.entries.declareItem k
    let rest ← dropText? "]]".toList rest
    some (⟨entries, k, current⟩, rest)
  | _ => do
    let (k, rest) ← key (skipBlanks cs)
    let entries ← p.entries.declareTable current k
    let rest ← dropText? "]".toList rest
    some (⟨entries, k, current⟩, rest)

/-- Reads a key with its value. -/
def keyStatement (p : Progress) (cs : List Char) : Except Fault (Progress × List Char) := do
  let (k, start) ← wellFormed (keyAndSign cs)
  let (v, rest) ← value limit 0 start
  let entries ← wellFormed (p.entries.within (fun es => es.assign p.current v k) p.header)
  .ok ({ p with entries }, rest)

/-- Reads what stands on a line, if anything, up to the line's end. -/
def statement (p : Progress) (cs : List Char) : Except Fault (Progress × List Char) := do
  let start := skipBlanks cs
  let (p, rest) ← match start with
    | [] => .ok (p, [])
    | '\n' :: _ => .ok (p, start)
    | '#' :: _ => .ok (p, start)
    | '[' :: rest => wellFormed (headerStatement p rest)
    | _ => keyStatement limit p start
  let rest ← wellFormed (skipComment (skipBlanks rest))
  .ok (p, rest)

/-- Reads the statements of a text, up to the first fault. -/
def statements (p : Progress) (cs : List Char) : Except Fault Entries :=
  match statement limit p cs with
  | .error fault => .error fault
  | .ok (p, []) => .ok p.entries
  | .ok (p, '\n' :: rest) => if rest.length < cs.length then statements p rest else .error .malformed
  | .ok _ => .error .malformed
termination_by cs.length

/-- The table that a text writes. -/
def read (text : String) : Except Fault Table :=
  (statements limit {} (plainBreaks text.toList)).map Node.toTable

end Limited

end ProtoEmit.Toml
