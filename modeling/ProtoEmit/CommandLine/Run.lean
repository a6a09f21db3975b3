/-
  The two commands.

  One writes the files of a program and reports them; the other shows where they would go.
-/

import ProtoEmit.CommandLine.Arguments
import ProtoEmit.Compiler
import ProtoEmit.Schema.Load
import ProtoEmit.Settings.Load
import ProtoEmit.Terminal.Grid
import ProtoEmit.Terminal.Picture

namespace ProtoEmit.CommandLine

/-- Why a command fails. -/
inductive Failure where
  /-- The command line is not understood. -/
  | usage
  | settings (e : SettingsError)
  | load (e : LoadError)
  | run (e : RunError)
deriving Repr

/-- What a command prints, line by line, and what it leaves behind. -/
structure Report where
  lines : List String
  tree : FileTree
  failure : Option Failure := none

/-! ## Printing

Paths are printed in a style of their own, which a mark switches off behind them. A backslash keeps what follows it
from being a mark. -/

/-- The lines that a text is printed on. -/
def printed (s : String) : List String :=
  (Terminal.lines s).map String.ofList

/-- A text without the backslashes that stand before brackets, since these only guard the brackets. -/
def unguarded : List Char → List Char
  | '\\' :: '[' :: rest => '[' :: unguarded rest
  | c :: rest => c :: unguarded rest
  | [] => []

/-- A text as it is shown where there may be marks and names of pictures, if it holds no mark itself. The marks, which
    are words for styles between brackets, and what is shown of a text with some of them, are left out here. -/
def shown (s : String) : String :=
  String.ofList (Terminal.withPictures (unguarded s.toList))

/-- The number of backslashes at the end of a text. -/
def backslashesAtEnd (cs : List Char) : Nat :=
  cs.length - (Text.dropEndWhile (· == '\\') cs).length

/-- A message as it is shown: one backslash at its end is doubled. -/
def shownMessage (s : String) : String :=
  shown s ++ (if backslashesAtEnd s.toList = 1 then "\\" else "")

/-- A path as it is shown before the mark that ends its style. Of two backslashes at its end the first guards the
    second and is not shown; a last one by itself guards the mark, which is shown in its place. -/
def shownPath (p : Path) : String :=
  let cs := p.toString.toList
  let count := backslashesAtEnd cs
  shown (String.ofList (cs.take (cs.length - count))) ++ String.ofList (List.replicate (count / 2) '\\')
    ++ (if count % 2 = 1 then "[/dim]" else "")

namespace Failure

def message? : Failure → Option String
  | usage => none
  | settings e => e.message?
  | load e => e.message?
  | run e => e.message?

/-- Whether a failure breaks the command off before it can say a word about it. -/
def isAbrupt : Failure → Bool
  | usage => false
  | settings (.unchecked _ _) => true
  | settings (.toolsNotTable _) => true
  | f => f.message?.isNone

/-- Whether the message only says which file has faults and the faults themselves come after it. -/
def hasDetails : Failure → Bool
  | settings (.invalidToml _) => true
  | settings (.invalid _ _) => true
  | load (.invalid _ _) => true
  | _ => false

/-- What a command prints about its failure: the message after `lead`. -/
def lines (lead : String) (f : Failure) : List String :=
  if f.isAbrupt then []
  else f.message?.toList.flatMap fun message =>
    let text := lead ++ message
    printed ("✗ Error: " ++ if f.hasDetails then shown text else shownMessage text)

/-- The report of a command that fails before it has changed anything. -/
def report (f : Failure) (t : FileTree) : Report :=
  ⟨f.lines "", t, some f⟩

end Failure

/-- Whether the level of a report is shown. -/
def isShown (verbose : Bool) (level : Level) : Bool :=
  verbose || level == .warning

/-- The width of the column of levels. -/
def levelWidth : Nat := 8

/-- The column that further lines of a message start in. -/
def messageColumn : Nat := 29

/-- The lines of a report: its level and its message. The first line has no time in front, where later lines keep
    the room for it. -/
def eventLines (e : Event) : List String :=
  match Terminal.lines e.message with
  | [] => []
  | first :: rest =>
    String.ofList (Terminal.padRight levelWidth e.level.name.toList ++ ' ' :: first)
      :: rest.map fun line => String.ofList (Terminal.blanks messageColumn ++ line)

/-- The reports of a run that are shown. -/
def logLines (verbose : Bool) (log : List Event) : List String :=
  (log.filter fun e => isShown verbose e.level).flatMap eventLines

/-- The settings that options give. -/
def Given.settings (given : Given) : Settings.Given :=
  let text (s : Switch) (key : String) := ((given.value? s).map fun v => (key, Setting.text v)).toList
  let flag (s : Switch) (key : String) := if given.has s then [(key, Setting.boolean true)] else []
  text .output Settings.outputKey
    ++ (given.nested?.map fun b => ("package_structured", Setting.boolean b)).toList
    ++ flag .dump "dump_mode"
    ++ text .dumpFile "dump_file_name"
    ++ flag .references "include_references"

/-- What a run prints about the files that it wrote. -/
def writtenLines (s : Settings) (written : List Path) : List String :=
  written.flatMap (fun p => printed ("  • " ++ shownPath p))
    ++ printed
      ("✓ " ++ shownMessage ("Wrote " ++ toString written.length ++ " proto file(s) to " ++ s.output.toString))

/-- Writes the files of a program. -/
def compile (t : FileTree) (program : String) (given : Given) : Report :=
  let file := (given.value? .settingsFile).map Path.ofString
  match Settings.load t file given.settings with
  | .error e => (Failure.settings e).report t
  | .ok s =>
    match Program.load t (.ofString program) with
    | .error e => (Failure.load e).report t
    | .ok p =>
      let o := p.run s t
      let log := logLines (given.has .verbose) o.log
      match o.result with
      | .ok written => ⟨log ++ writtenLines s written, o.tree, none⟩
      | .error e => ⟨log ++ (Failure.run e).lines "Compilation failed: ", o.tree, some (.run e)⟩

/-- The table of namespaces, packages and files. -/
def pathLines (files : List (String × Path)) : List String :=
  if files.isEmpty then ["No namespaces in program"]
  else Terminal.grid "Namespaces" ["Namespace", "Package", "Path"]
    (files.map fun (name, file) => [name, Package.name name, file.toString].map shown)

/-- Shows where the files of a program would go. -/
def paths (t : FileTree) (program : String) (nested : Bool) : Report :=
  match Program.load t (.ofString program) with
  | .error e => (Failure.load e).report t
  | .ok p =>
    match (Layout.ofNested nested).place p.namespaceNames with
    | .error c => (Failure.run (.collision c)).report t
    | .ok files => ⟨pathLines files, t, none⟩

/-- Does what a command line asks for. -/
def run (t : FileTree) (words : List String) : Report :=
  match Command.ofWords? words with
  | none => ⟨[], t, some .usage⟩
  | some .help => ⟨[], t, none⟩
  | some (.compile program given) => compile t program given
  | some (.paths program nested) => paths t program nested

end ProtoEmit.CommandLine
