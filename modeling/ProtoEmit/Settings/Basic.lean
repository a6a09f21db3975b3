/-
  The settings of a run, and how they are checked.

  Settings come as named values of several kinds; each value must suit its setting, and there are no others.
-/

import ProtoEmit.Package
import ProtoEmit.Schema.Coercion

namespace ProtoEmit

/-- The settings of a run. -/
structure Settings where
  /-- The folder that files are written to. -/
  output : Path
  layout : Layout := .flat
  /-- Whether everything goes into one file. -/
  dump : Bool := false
  dumpFile : String := "dump.proto"
  /-- Whether comments name what a type stands for. -/
  references : Bool := false
deriving DecidableEq, Repr

/-- A value given for a setting. -/
inductive Setting where
  | text (s : String)
  | boolean (b : Bool)
  | integer (n : Int)
  | number (x : Number)
  /-- A value that suits no setting: a list, a table, a date. -/
  | other
deriving Repr

namespace Setting

def toBool : Setting → Checked Bool
  | .boolean b => .valid b
  | .integer n => Coercion.boolOfInteger n
  | .number x => Coercion.boolOfNumber x
  | .text s => Coercion.boolOfText s
  | .other => .fail .notBoolean

/-- A text that is not empty. -/
def toName : Setting → Checked String
  | .text s => if s.isEmpty then .fail .emptyString else .valid s
  | _ => .fail .notString

def toPath : Setting → Checked Path
  | .text s => .valid (.ofString s)
  | _ => .fail .notPath

end Setting

namespace Settings

/-- Named values, each name once. -/
abbrev Given := List (String × Setting)

/-- The name of the setting that has no value to fall back on. -/
def outputKey : String := "output_path"

/-- The names of all settings. -/
def keys : List String :=
  [outputKey, "package_structured", "dump_mode", "dump_file_name", "include_references"]

/-- Gives a name its value, in the place that the name has already. -/
def Given.put (key : String) (v : Setting) : Given → Given
  | [] => [(key, v)]
  | (k, w) :: rest => if k = key then (k, v) :: rest else (k, w) :: Given.put key v rest

/-- Values of `overrides` replace those of the same name. -/
def Given.update (given overrides : Given) : Given :=
  overrides.foldl (fun g (k, v) => Given.put k v g) given

/-- The values of names that have one; a name that is left open is not given. -/
def Given.ofOptions (options : List (String × Option Setting)) : Given :=
  options.filterMap fun (key, value?) => value?.map fun v => (key, v)

/-- The value of a setting. -/
def required {α : Type} (key : String) (check : Setting → Checked α) (given : Given) : Checked α :=
  match given.lookup key with
  | some v => (check v).under (.key key)
  | none => .invalid [⟨[.key key], .missing⟩]

/-- The value of a setting that may be left out. -/
def optional {α : Type} (key : String) (fallback : α) (check : Setting → Checked α) (given : Given) : Checked α :=
  match given.lookup key with
  | some v => (check v).under (.key key)
  | none => .valid fallback

/-- There are no other names. -/
def onlyKnown (given : Given) : Checked Unit :=
  match given.filter fun (k, _) => !keys.contains k with
  | [] => .valid ()
  | unknown => .invalid (unknown.map fun (k, _) => ⟨[.key k], .unknownKey⟩)

/-- The settings that named values give. -/
def check (given : Given) : Checked Settings :=
  (fun output nested dump dumpFile references _ =>
      ⟨output, Layout.ofNested nested, dump, dumpFile, references⟩)
    <$> required outputKey Setting.toPath given
    <*> optional "package_structured" false Setting.toBool given
    <*> optional "dump_mode" false Setting.toBool given
    <*> optional "dump_file_name" "dump.proto" Setting.toName given
    <*> optional "include_references" false Setting.toBool given
    <*> onlyKnown given

end Settings

end ProtoEmit
