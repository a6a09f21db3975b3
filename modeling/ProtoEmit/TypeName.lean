/-
  How a field names its type.

  Inside one namespace a name is relative: the messages that enclose both the field and the type are left out. A
  type of another namespace is named from the root, by its package and its path.
-/

import ProtoEmit.Package

namespace ProtoEmit

/-- A place in the output: a namespace, and the messages around the place, outermost first. -/
structure Scope where
  owner : String
  path : List String := []
deriving DecidableEq, Repr

/-- The place inside a message. -/
def Scope.enter (s : Scope) (message : String) : Scope :=
  ⟨s.owner, s.path ++ [message]⟩

/-- The names that lead to a type. -/
def Reference.segments (r : Reference) : List String :=
  Text.split '.' r.path

/-- What is left of a path after the part that it shares with a scope; its last name always stays. -/
def relativeTo : List String → List String → List String
  | own :: scope, name :: next :: path => if own = name then relativeTo scope (next :: path) else name :: next :: path
  | _, path => path

/-- The name of a referenced type, seen from a place. -/
def Reference.text (r : Reference) (scope : Scope) : String :=
  if r.owner = scope.owner then Text.joinDots (relativeTo scope.path r.segments)
  else "." ++ Package.name r.owner ++ "." ++ r.path

/-- The name of a type, seen from a place. -/
def FieldType.text (t : FieldType) (scope : Scope) : String :=
  match t with
  | .scalar s => s.keyword
  | .reference r => r.text scope

end ProtoEmit
