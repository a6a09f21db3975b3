/-
  Where a namespace goes: its package and its file.

  A package name has the parts of the namespace's name, without the empty ones, in lower case. Files lie side by
  side under their package's name, or in a folder for each part of it. No two namespaces may share a file.
-/

import ProtoEmit.Path
import ProtoEmit.Schema.Basic
import ProtoEmit.Text.LowerCase

namespace ProtoEmit

namespace Package

/-- The parts of a package: those of the namespace's name that are not empty, in lower case. -/
def parts (namespaceName : String) : List String :=
  ((Text.split '.' namespaceName).filter (· != "")).map Text.lower

/-- The dotted name of a namespace's package. -/
def name (namespaceName : String) : String :=
  Text.joinDots (parts namespaceName)

end Package

/-- How files are laid out. -/
inductive Layout where
  /-- All files in one folder. -/
  | flat
  /-- A folder for each part of a package but the last. -/
  | nested
deriving DecidableEq, Repr

namespace Layout

/-- The ending of every file. -/
def ending : String := ".proto"

def ofNested (nested : Bool) : Layout :=
  if nested then .nested else .flat

/-- The file of a package, seen from the output folder. -/
def fileOfPackage (layout : Layout) (package : String) : Path :=
  match layout with
  | .flat => .ofString (package ++ ending)
  | .nested =>
    let segments := Text.split '.' package
    let folders := segments.dropLast.map Path.ofString
    .joinAll (folders ++ [.ofString (segments.getLastD "" ++ ending)])

/-- The file of a namespace, seen from the output folder. -/
def file (layout : Layout) (namespaceName : String) : Path :=
  layout.fileOfPackage (Package.name namespaceName)

end Layout

/-- Two namespaces with one file. -/
structure Collision where
  file : Path
  first : String
  second : String
deriving DecidableEq, Repr

def Collision.message (c : Collision) : String :=
  "Namespaces '" ++ c.first ++ "' and '" ++ c.second ++ "' both resolve to '" ++ c.file.toString ++ "'"

namespace Layout

/-- Places the namespaces of the given names one after the other; `placed` are those that have their file. -/
def placeFrom (layout : Layout) (placed : List (String × Path)) : List String → Except Collision (List (String × Path))
  | [] => .ok placed
  | name :: rest =>
    let file := layout.file name
    match placed.find? fun p => p.2 == file with
    | some owner => .error ⟨file, owner.1, name⟩
    | none => placeFrom layout (placed ++ [(name, file)]) rest

/-- The file of each namespace, in order; the first namespace whose file is taken is an error. -/
def place (layout : Layout) (names : List String) : Except Collision (List (String × Path)) :=
  layout.placeFrom [] names

end Layout

end ProtoEmit
