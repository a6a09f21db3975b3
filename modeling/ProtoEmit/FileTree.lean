/-
  Files and folders.

  A folder holds entries by name, and there are no links, so a place is the list of names that lead there from the
  root. A path is followed name by name from the current folder or from the root: every name but the last must lead
  to a folder, `..` leads back, no name may be longer than 255 bytes, and no path longer than 4095.
-/

import ProtoEmit.Path
import ProtoEmit.Text.Quoted

namespace ProtoEmit

/-- What there is at a place: a file, or a folder with what it holds. -/
inductive Entry where
  | file (content : ByteArray)
  | folder (entries : List (String × Entry))

/-- What a folder holds, each name once. -/
abbrev Entries := List (String × Entry)

/-- The names from the root to a place. -/
abbrev Place := List String

/-- How far work that nests may go before it breaks off. This depends on what a caller has open already: the numbers
    given here are those of a caller that has little. -/
structure Limits where
  /-- The greatest number of folders around one another that are asked for at once. -/
  newFolders : Nat := 985
  /-- The deepest level at which a value in a file of settings may stand. -/
  settingsLevel : Nat := 987
  /-- How deep the document of a program may nest for the program to be printed. The number given here is enough for
      every program that is read from a file; programs beyond it are not modelled. -/
  programDepth : Nat := 200

/-- Files and folders, and the current folder. The root is always there. -/
structure FileTree where
  current : Place := []
  entries : Entries := []
  limits : Limits := {}

/-! ## Entries -/

namespace Entries

/-- What there is at a place below a folder. -/
def get? : Entries → Place → Option Entry
  | es, [] => some (.folder es)
  | es, name :: rest =>
    match es.lookup name with
    | none => none
    | some (.folder inner) => get? inner rest
    | some (.file content) => if rest.isEmpty then some (.file content) else none

/-- Gives a name its entry, in the place that the name has already. -/
def set (name : String) (entry : Entry) : Entries → Entries
  | [] => [(name, entry)]
  | (n, e) :: rest => if n = name then (n, entry) :: rest else (n, e) :: set name entry rest

/-- Puts an entry at a place, in a folder that is there. -/
def put (entry : Entry) : Place → Entries → Entries
  | [], es => es
  | [name], es => es.set name entry
  | name :: next :: rest, es =>
    match es.lookup name with
    | some (.folder inner) => es.set name (.folder (put entry (next :: rest) inner))
    | _ => es

/-- Takes away what there is at a place, with everything below it. -/
def erase : Place → Entries → Entries
  | [], _ => []
  | [name], es => es.filter (·.1 != name)
  | name :: next :: rest, es =>
    match es.lookup name with
    | some (.folder inner) => es.set name (.folder (erase (next :: rest) inner))
    | _ => es

end Entries

mutual

/-- An entry at a place and everything below it, folders without content. -/
def Entry.flatten (place : Place) : Entry → List (Place × Option ByteArray)
  | .file content => [(place, some content)]
  | .folder entries => (place, none) :: flattenAll place entries
termination_by structural e => e

/-- Everything in a folder at a place. -/
def flattenAll (place : Place) : List (String × Entry) → List (Place × Option ByteArray)
  | [] => []
  | (name, e) :: rest => e.flatten (place ++ [name]) ++ flattenAll place rest
termination_by structural es => es

end

/-! ## Refusals -/

/-- Why an operation on files is refused. -/
inductive Refusal where
  | missing
  | exists
  | notFolder
  | isFolder
  | nameTooLong
  /-- More folders are missing around one another than are made at once. -/
  | tooDeep
  /-- A path with a zero character names nothing. -/
  | zeroCharacter
deriving DecidableEq, Repr

namespace Refusal

/-- The number and the wording of a refusal by the system. The other refusals are breakdowns and have neither. -/
def wording? : Refusal → Option (Nat × String)
  | .missing => some (2, "No such file or directory")
  | .exists => some (17, "File exists")
  | .notFolder => some (20, "Not a directory")
  | .isFolder => some (21, "Is a directory")
  | .nameTooLong => some (36, "File name too long")
  | .tooDeep | .zeroCharacter => none

/-- A refusal by the system with its number and the path that it is about. -/
def report? (r : Refusal) (p : Path) : Option String :=
  r.wording?.map fun (number, wording) =>
    "[Errno " ++ toString number ++ "] " ++ wording ++ ": " ++ Text.quote p.toString

end Refusal

/-- The greatest length of a name, in bytes. -/
def maxNameBytes : Nat := 255

/-- The greatest length of a path, in bytes. -/
def maxPathBytes : Nat := 4095

namespace FileTree

/-! ## Looking -/

/-- What there is at a place. -/
def get? (t : FileTree) (place : Place) : Option Entry :=
  t.entries.get? place

/-- Follows names from a place. Only the last name may lead to nothing. -/
def follow (t : FileTree) (place : Place) : List String → Except Refusal Place
  | [] => .ok place
  | name :: rest =>
    match t.get? place with
    | none => .error .missing
    | some (.file _) => .error .notFolder
    | some (.folder _) =>
      if name = ".." then t.follow place.dropLast rest
      else if maxNameBytes < name.utf8ByteSize then .error .nameTooLong
      else t.follow (place ++ [name]) rest

/-- The place that a path leads to. -/
def locate (t : FileTree) (p : Path) : Except Refusal Place :=
  if p.parts.any (·.contains '\x00') then .error .zeroCharacter
  else if maxPathBytes < p.toString.utf8ByteSize then .error .nameTooLong
  else t.follow (if p.isAbsolute then [] else t.current) p.parts

/-- What a path leads to. -/
def find? (t : FileTree) (p : Path) : Option Entry :=
  match t.locate p with
  | .ok place => t.get? place
  | .error _ => none

/-- Whether a path leads to a file. There is no answer for a path that is too long. -/
def isFile (t : FileTree) (p : Path) : Except Refusal Bool :=
  match t.locate p with
  | .error .nameTooLong => .error .nameTooLong
  | .error _ => .ok false
  | .ok place =>
    match t.get? place with
    | some (.file _) => .ok true
    | _ => .ok false

def isFolder (t : FileTree) (p : Path) : Bool :=
  match t.find? p with
  | some (.folder _) => true
  | _ => false

/-- The content of a file. -/
def read (t : FileTree) (p : Path) : Except Refusal ByteArray :=
  match t.locate p with
  | .error r => .error r
  | .ok place =>
    match t.get? place with
    | none => .error .missing
    | some (.folder _) => .error .isFolder
    | some (.file content) => .ok content

/-! ## Changing -/

/-- Replaces what there is at a place, or adds it. -/
def insert (t : FileTree) (place : Place) (entry : Entry) : FileTree :=
  { t with entries := t.entries.put entry place }

/-- Takes away a place and everything below it. -/
def erase (t : FileTree) (place : Place) : FileTree :=
  { t with entries := t.entries.erase place }

/-- Makes a folder where there is nothing. -/
def createFolder (t : FileTree) (p : Path) : Except Refusal FileTree :=
  match t.locate p with
  | .error r => .error r
  | .ok place =>
    match t.get? place with
    | some _ => .error .exists
    | none => .ok (t.insert place (.folder []))

/-- Makes a folder unless it is there; the folder around it must be there. -/
def openFolder (t : FileTree) (p : Path) : FileTree × Option Refusal :=
  match t.createFolder p with
  | .ok t' => (t', none)
  | .error r => if t.isFolder p then (t, none) else (t, some r)

/-- Makes the folder of a path, whose names come last one first, and the folders around it where they are
    missing; `room` folders are asked for at most. Folders that were made stay if a later one is refused. -/
def openFoldersFrom (t : FileTree) (root : Path.Root) : Nat → List String → FileTree × Option Refusal
  | 0, _ => (t, some .tooDeep)
  | _ + 1, [] => t.openFolder ⟨root, []⟩
  | room + 1, name :: outer =>
    match t.openFolder ⟨root, (name :: outer).reverse⟩ with
    | (t', some .missing) =>
      match t'.openFoldersFrom root room outer with
      | (t'', none) => t''.openFolder ⟨root, (name :: outer).reverse⟩
      | refused => refused
    | result => result

/-- Makes a folder and all folders around it. -/
def openFolders (t : FileTree) (p : Path) : FileTree × Option Refusal :=
  t.openFoldersFrom p.root t.limits.newFolders p.parts.reverse

/-- Writes a file that may be there already, in a folder that is there. A file that can be opened is taken to hold
    everything that is written to it: there is always room on the disk. -/
def writeFile (t : FileTree) (p : Path) (content : ByteArray) : FileTree × Option Refusal :=
  match t.locate p with
  | .error r => (t, some r)
  | .ok place =>
    match t.get? place with
    | some (.folder _) => (t, some .isFolder)
    | _ => (t.insert place (.file content), none)

/-- Writes a file, and makes the folders around it. -/
def write (t : FileTree) (p : Path) (content : ByteArray) : FileTree × Option Refusal :=
  match t.openFolders p.parent with
  | (t', none) => t'.writeFile p content
  | refused => refused

/-- Takes away what a path leads to. -/
def remove (t : FileTree) (p : Path) : FileTree :=
  match t.locate p with
  | .ok place => t.erase place
  | .error _ => t

/-! ## Listing -/

/-- Everything in a tree. -/
def flatten (t : FileTree) : List (Place × Option ByteArray) :=
  flattenAll [] t.entries

/-- Everything below the current folder in the order of the paths, folders without content and with a slash after
    their paths. -/
def listing (t : FileTree) : List (String × Option ByteArray) :=
  let below := match t.get? t.current with
    | some (.folder entries) => flattenAll [] entries
    | _ => []
  let named := below.map fun (place, content) =>
    ("/".intercalate place ++ (if content.isNone then "/" else ""), content)
  named.mergeSort fun a b => decide (a.1 ≤ b.1)

end FileTree

end ProtoEmit
