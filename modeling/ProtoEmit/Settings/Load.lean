/-
  Settings out of files.

  A file of its own holds the settings in a table of the program's name; the file that a project shares among its
  tools holds them below the table of tools. An output folder in a file is seen from that file. Values given
  directly come before those of a file.
-/

import ProtoEmit.FileTree
import ProtoEmit.Settings.Basic
import ProtoEmit.Toml.Reader

namespace ProtoEmit

/-- Why there are no settings. -/
inductive SettingsError where
  | fileNotFound (file : Path)
  /-- The current folder is gone. -/
  | noCurrentFolder
  /-- There is no telling whether the file is there. -/
  | unchecked (file : Path) (why : Refusal)
  | unreadable (file : Path) (why : Refusal)
  /-- The file is not UTF-8. -/
  | notText
  | invalidToml (file : Path)
  /-- The file has an integer with more digits than are read. -/
  | hugeInteger (file : Path)
  /-- The file has a value that nests deeper than is read. -/
  | tooDeep (file : Path)
  /-- The entry of the tools is a value of the named type and not a table. -/
  | toolsNotTable (type : String)
  | notTable (file : Path)
  | noOutput
  | invalid (file : Option Path) (issues : List Issue)
deriving Repr

namespace SettingsError

/-- The text of an error; the breakdowns that have nothing to do with the settings themselves have none. -/
def message? : SettingsError → Option String
  | .fileNotFound file => some ("Config file not found: " ++ file.toString)
  | .unchecked file why => why.report? file
  | .unreadable file why =>
    (why.report? file).map fun text => "Cannot read config file " ++ file.toString ++ ": " ++ text
  | .noCurrentFolder | .notText | .hugeInteger _ | .tooDeep _ => none
  | .invalidToml file => some ("Invalid TOML in " ++ file.toString)
  | .toolsNotTable type => some ("'" ++ type ++ "' object has no attribute 'get'")
  | .notTable file => some ("protoscribe settings in " ++ file.toString ++ " must be a table")
  | .noOutput =>
    some ("No output path configured. Pass --output or set output_path in protoscribe.toml or "
      ++ "[tool.protoscribe] in pyproject.toml")
  | .invalid none _ => some "Invalid configuration"
  | .invalid (some file) _ => some ("Invalid configuration in " ++ file.toString)

end SettingsError

/-- The name under which messages speak of the type of a value. -/
def Toml.Value.typeName : Toml.Value → String
  | .string _ => "str"
  | .integer _ => "int"
  | .number _ => "float"
  | .boolean _ => "bool"
  | .date _ => "datetime.date"
  | .time _ => "datetime.time"
  | .dateTime _ => "datetime.datetime"
  | .array _ => "list"
  | .table _ => "dict"

def Setting.ofToml : Toml.Value → Setting
  | .string s => .text s
  | .integer n => .integer n
  | .number x => .number x
  | .boolean b => .boolean b
  | _ => .other

namespace Settings

/-- The file that is only about the settings. -/
def ownFile : String := "protoscribe.toml"

/-- The file that tools share. -/
def sharedFile : String := "pyproject.toml"

/-- The key of the settings. -/
def tableKey : String := "protoscribe"

/-- The first of some paths that leads to a file. -/
def firstFile (t : FileTree) : List Path → Except SettingsError (Option Path)
  | [] => .ok none
  | p :: rest =>
    match t.isFile p with
    | .error why => .error (.unchecked p why)
    | .ok true => .ok (some p)
    | .ok false => firstFile t rest

/-- The file with settings in a folder. -/
def findFile (t : FileTree) (folder : Path) : Except SettingsError (Option Path) :=
  firstFile t ([ownFile, sharedFile].map fun name => folder.join (.ofString name))

/-- The value of a key, an empty table if there is none. -/
def entryOf (key : String) (table : Toml.Table) : Toml.Value :=
  (table.lookup key).getD (.table [])

/-- The settings' entry of a document. -/
def entryIn (file : Path) (document : Toml.Table) : Except SettingsError Toml.Value :=
  if file.name = sharedFile then
    match entryOf "tool" document with
    | .table tools => .ok (entryOf tableKey tools)
    | other => .error (.toolsNotTable other.typeName)
  else .ok (entryOf tableKey document)

/-- Sees a relative output folder from the folder of its file. -/
def relocate (folder : Path) (entry : String × Toml.Value) : String × Toml.Value :=
  match entry with
  | (key, .string s) =>
    if key = outputKey && !(Path.ofString s).isAbsolute then
      (key, .string (folder.join (.ofString s)).toString)
    else (key, .string s)
  | other => other

/-- The table of settings in a file. -/
def readTable (t : FileTree) (file : Path) : Except SettingsError Toml.Table :=
  match t.read file with
  | .error why => .error (.unreadable file why)
  | .ok content =>
    match String.fromUTF8? content with
    | none => .error .notText
    | some text =>
      match Toml.read t.limits.settingsLevel text with
      | .error .malformed => .error (.invalidToml file)
      | .error .hugeInteger => .error (.hugeInteger file)
      | .error .tooDeep => .error (.tooDeep file)
      | .ok document =>
        match entryIn file document with
        | .error e => .error e
        | .ok (.table settings) => .ok (settings.map (relocate file.parent))
        | .ok _ => .error (.notTable file)

/-- The current folder as a path, if it is there. -/
def currentFolder (t : FileTree) : Except SettingsError Path :=
  match t.get? t.current with
  | some (.folder _) => .ok ⟨.slash, t.current⟩
  | _ => .error .noCurrentFolder

/-- The file to take settings from: the given one, which must be there, or one in the current folder. -/
def source (t : FileTree) (file : Option Path) : Except SettingsError (Option Path) :=
  match file with
  | none => do findFile t (← currentFolder t)
  | some f =>
    match firstFile t [f] with
    | .ok none => .error (.fileNotFound f)
    | found => found

/-- The settings of a file and of `overrides`, which come first. -/
def load (t : FileTree) (file : Option Path) (overrides : Given) : Except SettingsError Settings := do
  let source ← source t file
  let table ← match source with
    | some f => readTable t f
    | none => .ok []
  let given := Given.update (table.map fun (k, v) => (k, Setting.ofToml v)) overrides
  if (given.lookup outputKey).isNone then .error .noOutput
  else match check given with
    | .valid settings => .ok settings
    | .invalid issues => .error (.invalid source issues)

end Settings

end ProtoEmit
