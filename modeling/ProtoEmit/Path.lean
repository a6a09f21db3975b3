/-
  Slash-separated paths, kept in normal form.

  Empty and `.` components vanish, `..` stays, and joining an absolute path discards what stands before it. A
  leading slash makes a path absolute; exactly two of them are a root of their own, three or more are one.
-/

import ProtoEmit.Text.Split

namespace ProtoEmit

/-- Where a path starts. -/
inductive Path.Root where
  /-- The current folder. -/
  | here
  /-- The root folder, one slash. -/
  | slash
  /-- The root that is written with two slashes. -/
  | twoSlashes
deriving DecidableEq, Repr

/-- A path in normal form: its components are neither empty nor `.` and hold no slash. -/
structure Path where
  root : Path.Root := .here
  parts : List String := []
deriving DecidableEq, Repr

namespace Path

/-- The text of a root. -/
def Root.text : Root → String
  | .here => ""
  | .slash => "/"
  | .twoSlashes => "//"

/-- The root that a text starts with, by the number of its leading slashes. -/
def Root.ofLeading : Nat → Root
  | 0 => .here
  | 2 => .twoSlashes
  | _ => .slash

/-- A piece between slashes that counts as a component. -/
def isComponent (piece : String) : Bool :=
  piece != "" && piece != "."

/-- The path that a text writes. -/
def ofString (s : String) : Path where
  root := .ofLeading (s.toList.takeWhile (· == '/')).length
  parts := (Text.split '/' s).filter isComponent

def isAbsolute (p : Path) : Bool :=
  p.root != .here

/-- `q` seen from `p`. -/
def join (p q : Path) : Path :=
  if q.isAbsolute then q else ⟨p.root, p.parts ++ q.parts⟩

/-- The paths joined from left to right. -/
def joinAll (ps : List Path) : Path :=
  ps.foldl join ⟨.here, []⟩

/-- The path without its last component. -/
def parent (p : Path) : Path :=
  ⟨p.root, p.parts.dropLast⟩

/-- The last component, empty if there is none. -/
def name (p : Path) : String :=
  p.parts.getLast?.getD ""

/-- The components, a root counting as the first. -/
def components (p : Path) : List String :=
  if p.isAbsolute then p.root.text :: p.parts else p.parts

/-- The text of a path; the empty path is the current folder. -/
def toString (p : Path) : String :=
  if p.isAbsolute then p.root.text ++ "/".intercalate p.parts
  else if p.parts.isEmpty then "."
  else "/".intercalate p.parts

instance : ToString Path := ⟨Path.toString⟩

end Path

end ProtoEmit
