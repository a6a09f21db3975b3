/-
  Whole files: the unit of one namespace, and the dump of a program.
-/

import ProtoEmit.Imports
import ProtoEmit.Log
import ProtoEmit.Outline

namespace ProtoEmit

/-- A file's lines, and what there is to report on them. They are given however deep messages nest; that printing breaks
    off at some depth (see `Limits.programDepth`) is left out here. -/
structure Rendered where
  lines : List String
  events : List Event
deriving DecidableEq, Repr

/-- The text of a file: every line ends with a line break. -/
def Rendered.text (r : Rendered) : String :=
  String.join (r.lines.map (· ++ "\n"))

/-- The first lines of a file. A dump belongs to no namespace and declares no package. -/
def headerLines (namespaceName : Option String) : List String :=
  ["syntax = \"proto3\";"]
    ++ (match namespaceName with
      | some name => ["package " ++ Package.name name ++ ";"]
      | none => [])
    ++ ["", "// protoscribe compiled unit", ""]

/-- The import statements of files, in the order of their names, and a blank line. -/
def importLines (files : List Path) : List String :=
  ((Text.sortByName id (files.map Path.toString)).map fun f => "import \"" ++ f ++ "\";") ++ [""]

/-- The lines of blocks, with a report on each added zero. -/
def renderBlocks (references : Bool) (blocks : List Block) : Rendered :=
  ⟨Block.linesAll references "" blocks, (Block.inventedZerosAll blocks).map .inventedZero⟩

namespace Namespace

/-- The namespaces to import, in the order in which they are looked up. -/
def sortedImports (n : Namespace) : List String :=
  Text.sortByName id n.imports

/-- The files to import, if `files` tells the file of each namespace of the program. -/
def importFiles (n : Namespace) (files : List (String × Path)) : List Path :=
  n.sortedImports.filterMap fun name => files.lookup name

/-- The namespaces to import that the program does not have. -/
def missingImports (n : Namespace) (files : List (String × Path)) : List String :=
  n.sortedImports.filter fun name => (files.lookup name).isNone

/-- The blocks of a namespace's public types in the order of a file of its own. -/
def unitBlocks (n : Namespace) : List Block :=
  Declaration.outlines ⟨n.name, []⟩ (Declaration.interleaved n.publicTypes)

/-- The blocks of a namespace's public types in the order of a dump. -/
def dumpBlocks (n : Namespace) : List Block :=
  Declaration.outlines ⟨n.name, []⟩ (Declaration.grouped n.publicTypes)

/-- The file of a namespace. -/
def unit (references : Bool) (files : List (String × Path)) (n : Namespace) : Rendered :=
  let body := renderBlocks references n.unitBlocks
  ⟨headerLines (some n.name) ++ importLines (n.importFiles files) ++ body.lines,
    (n.missingImports files).map (.unknownNamespace n.name) ++ body.events⟩

/-- The lines of a namespace in a dump. -/
def dumpSection (references : Bool) (n : Namespace) : Rendered :=
  let body := renderBlocks references n.dumpBlocks
  ⟨["//----- Begin " ++ n.name ++ " -----", ""] ++ body.lines
    ++ ["", "//----- End " ++ n.name ++ " -----", "//------------------------------"], body.events⟩

end Namespace

/-- One file with all namespaces of a program. -/
def Program.dump (references : Bool) (p : Program) : Rendered :=
  let sections := p.namespaces.map (Namespace.dumpSection references)
  ⟨headerLines none ++ sections.flatMap (·.lines), sections.flatMap (·.events)⟩

end ProtoEmit
