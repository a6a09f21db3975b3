/-
  The command line on the files of this machine.

  A command is run on a picture of the disk that has only the places it can reach. A first run on the files that
  the command reads tells which places it would write to; a second run knows what is there already, and its
  changes are carried out on the disk.
-/

import ProtoEmit.CommandLine.Run

namespace ProtoEmit.CommandLine

/-- The places on the way that names lead from a place, the last one included. -/
def way (place : Place) : List String → List Place
  | [] => []
  | name :: rest =>
    let next := if name = ".." then place.dropLast else place ++ [name]
    next :: way next rest

/-- The files that a command reads, or may read. -/
def Command.sources : Command → List Path
  | .compile program given =>
    .ofString program :: match given.value? .settingsFile with
      | some file => [.ofString file]
      | none => [.ofString Settings.ownFile, .ofString Settings.sharedFile]
  | .paths program _ => [.ofString program]
  | .help => []

/-- The places on the way to what a command reads. -/
def sourcePlaces (current : Place) (words : List String) : List Place :=
  let sources := ((Command.ofWords? words).map Command.sources).getD []
  way [] current ++ sources.flatMap fun p => way (if p.isAbsolute then [] else current) p.parts

/-- What a tree has that another one has not, a folder before what it holds. -/
def changes (before after : FileTree) : List (Place × Option ByteArray) :=
  after.flatten.filter fun (place, content) =>
    match content, before.get? place with
    | none, some (.folder _) => false
    | some new, some (.file old) => new != old
    | _, _ => true

/-- How this machine writes a place. -/
def placeText (place : Place) : String :=
  "/" ++ "/".intercalate place

/-- Looks up a place on the disk. A dot leads from a folder to itself, and from a file nowhere. -/
def look (place : Place) : IO (Option Entry) := do
  try
    discard (IO.FS.realPath (placeText (place ++ ["."])))
    return some (.folder [])
  catch _ =>
    try
      return some (.file (← IO.FS.readBinFile (placeText place)))
    catch _ => return none

/-- Adds what the disk has at some places to a picture of it, unless it is there already. -/
def lookAll (t : FileTree) (places : List Place) : IO FileTree :=
  places.foldlM (fun t place => do
    if (t.get? place).isSome then return t
    match ← look place with
    | some entry => return t.insert place entry
    | none => return t) t

/-- Carries out a change on the disk. -/
def apply : Place × Option ByteArray → IO Unit
  | (place, none) => IO.FS.createDirAll (placeText place)
  | (place, some content) => IO.FS.writeBinFile (placeText place) content

/-- Does what a command line asks for. The result is 0, 1 if the command failed, 2 if it was not understood. -/
def perform (words : List String) : IO UInt32 := do
  let current := (Path.ofString (toString (← IO.currentDir))).parts
  let sources ← lookAll { current } (sourcePlaces current words)
  let targets := (changes sources (run sources words).tree).map (·.1)
  let before ← lookAll sources targets
  let report := run before words
  (changes before report.tree).forM apply
  report.lines.forM IO.println
  match report.failure with
  | none => return 0
  | some f =>
    if f.isAbrupt then IO.eprintln (f.message?.getD "The command broke off")
    return if f matches .usage then 2 else 1

end ProtoEmit.CommandLine

/-- The program. -/
def main (words : List String) : IO UInt32 :=
  ProtoEmit.CommandLine.perform words
