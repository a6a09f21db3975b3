/-
  Runs: writing a program's files.

  A run writes one file for each namespace, or one dump of everything. It stops at the first file that is
  refused, and the files before it stay. A compiler runs once.
-/

import ProtoEmit.FileTree
import ProtoEmit.Settings.Basic
import ProtoEmit.Unit

namespace ProtoEmit

/-- Why a run fails. -/
inductive RunError where
  | collision (c : Collision)
  | cannotWrite (file : Path) (why : Refusal)
  | alreadyRan
deriving DecidableEq, Repr

/-- The text of an error; a breakdown has none. -/
def RunError.message? : RunError → Option String
  | .collision c => some c.message
  | .cannotWrite file why => why.wording?.map fun (_, wording) => "Cannot write " ++ file.toString ++ ": " ++ wording
  | .alreadyRan => some "Compiler already ran (state: done)"

/-- A file to be written. -/
structure Output where
  file : Path
  content : Rendered

/-- What came of a run: the tree that it left, what it reported, and the files that it wrote. -/
structure Outcome where
  tree : FileTree
  log : List Event
  result : Except RunError (List Path)

/-- Writes files one after the other, up to the first that is refused. -/
def writeOutputs (t : FileTree) : List Output → Outcome
  | [] => ⟨t, [], .ok []⟩
  | o :: rest =>
    match t.write o.file o.content.text.toUTF8 with
    | (t', some why) => ⟨t', o.content.events, .error (.cannotWrite o.file why)⟩
    | (t', none) =>
      let later := writeOutputs t' rest
      ⟨later.tree, o.content.events ++ .wrote o.file :: later.log, later.result.map (o.file :: ·)⟩

namespace Program

/-- The names of the namespaces, in order. -/
def namespaceNames (p : Program) : List String :=
  p.namespaces.map (·.name)

/-- The files of a run that writes one for each namespace, whose places are `files`. -/
def units (p : Program) (s : Settings) (files : List (String × Path)) : List Output :=
  List.zipWith (fun n placed => ⟨s.output.join placed.2, n.unit s.references files⟩) p.namespaces files

/-- The file of a run that dumps everything. -/
def dumpOutput (p : Program) (s : Settings) : Output :=
  ⟨s.output.join (.ofString s.dumpFile), p.dump s.references⟩

/-- Where a run places the namespaces; a dump places none. -/
def place (p : Program) (s : Settings) : Except Collision (List (String × Path)) :=
  if s.dump then .ok [] else s.layout.place p.namespaceNames

/-- Writes the files of a program. -/
def run (p : Program) (s : Settings) (t : FileTree) : Outcome :=
  match p.place s with
  | .error c => ⟨t, [.writing s.output], .error (.collision c)⟩
  | .ok files =>
    let o := writeOutputs t (if s.dump then [p.dumpOutput s] else p.units s files)
    { o with log := .writing s.output :: o.log }

end Program

/-- Where a compiler stands. -/
inductive Compiler.State where
  | idle
  | dumping
  | emitting
  | done
deriving DecidableEq, Repr

/-- A program with settings, to be run once. -/
structure Compiler where
  program : Program
  settings : Settings
  state : Compiler.State := .idle
  /-- The files of the namespaces, once a run has placed them. -/
  files : List (String × Path) := []

namespace Compiler

def ran (c : Compiler) : Bool :=
  c.state != .idle

/-- Writes everything into one file. -/
def dumpAll (c : Compiler) (t : FileTree) : Compiler × Outcome :=
  ({ c with state := .dumping }, writeOutputs t [c.program.dumpOutput c.settings])

/-- Places the namespaces and writes their files. The places are kept if a file is refused. -/
def emitAll (c : Compiler) (t : FileTree) : Compiler × Outcome :=
  match c.settings.layout.place c.program.namespaceNames with
  | .error e => ({ c with state := .emitting }, ⟨t, [], .error (.collision e)⟩)
  | .ok files => ({ c with state := .emitting, files }, writeOutputs t (c.program.units c.settings files))

/-- Runs a compiler that has not run yet. It is done whichever way the run ends. -/
def compile (c : Compiler) (t : FileTree) : Compiler × Outcome :=
  if c.ran then (c, ⟨t, [], .error .alreadyRan⟩)
  else
    let (c', o) := if c.settings.dump then c.dumpAll t else c.emitAll t
    ({ c' with state := .done }, { o with log := .writing c.settings.output :: o.log })

end Compiler

end ProtoEmit
