/-
  What a run reports while it goes on.
-/

import ProtoEmit.Path

namespace ProtoEmit

/-- How important a report is. -/
inductive Level where
  | debug
  | info
  | warning
deriving DecidableEq, Repr

def Level.name : Level → String
  | .debug => "DEBUG"
  | .info => "INFO"
  | .warning => "WARNING"

/-- A report. -/
inductive Event where
  /-- A run starts that writes into a folder. -/
  | writing (folder : Path)
  /-- An enumeration has no zero, and one was added. -/
  | inventedZero (enumeration : String)
  /-- A namespace refers to one that the program does not have. -/
  | unknownNamespace (referrer missing : String)
  /-- A file was written. -/
  | wrote (file : Path)
deriving DecidableEq, Repr

namespace Event

def level : Event → Level
  | writing _ => .info
  | inventedZero _ => .debug
  | unknownNamespace _ _ => .warning
  | wrote _ => .debug

def message : Event → String
  | writing folder => "Writing proto files to folder `" ++ folder.toString ++ "`"
  | inventedZero enumeration => "Synthesizing zero value for enum " ++ enumeration
  | unknownNamespace referrer missing =>
    "Namespace `" ++ referrer ++ "` references unknown namespace `" ++ missing ++ "`; import skipped"
  | wrote file => "Wrote " ++ file.toString

end Event

end ProtoEmit
