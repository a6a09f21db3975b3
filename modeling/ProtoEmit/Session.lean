/-
  Sessions: compilers that share one tree of files.
-/

import ProtoEmit.Compiler
import ProtoEmit.Settings.Load

namespace ProtoEmit

/-- The files, and the compilers by their names. -/
structure Session where
  tree : FileTree
  compilers : List (String × Compiler) := []

/-- What can be done in a session. -/
inductive Action where
  | putFile (file : Path) (content : ByteArray)
  | putFolder (folder : Path)
  | remove (path : Path)
  /-- Makes a compiler with the settings of the current folder and the given ones. -/
  | create (id : String) (program : Program) (given : Settings.Given)
  | compile (id : String)
  /-- Makes a compiler and runs it at once. -/
  | run (program : Program) (given : Settings.Given)

/-- What comes of an action. -/
inductive Reply where
  | done
  | created
  | noSettings (e : SettingsError)
  | noCompiler
  | outcome (o : Outcome)

namespace Session

/-- Gives a compiler its name, in place of an earlier one of that name. -/
def setCompiler (s : Session) (id : String) (c : Compiler) : Session :=
  { s with compilers := (id, c) :: s.compilers.filter (·.1 != id) }

def compiler? (s : Session) (id : String) : Option Compiler :=
  s.compilers.lookup id

/-- Does one thing. -/
def act (s : Session) : Action → Session × Reply
  | .putFile file content => ({ s with tree := (s.tree.write file content).1 }, .done)
  | .putFolder folder => ({ s with tree := (s.tree.openFolders folder).1 }, .done)
  | .remove path => ({ s with tree := s.tree.remove path }, .done)
  | .create id program given =>
    match Settings.load s.tree none given with
    | .error e => (s, .noSettings e)
    | .ok settings => (s.setCompiler id { program, settings }, .created)
  | .compile id =>
    match s.compiler? id with
    | none => (s, .noCompiler)
    | some c =>
      let (c', o) := c.compile s.tree
      ({ s.setCompiler id c' with tree := o.tree }, .outcome o)
  | .run program given =>
    match Settings.load s.tree none given with
    | .error e => (s, .noSettings e)
    | .ok settings =>
      let o := program.run settings s.tree
      ({ s with tree := o.tree }, .outcome o)

end Session

end ProtoEmit
