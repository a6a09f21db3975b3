/-
  Programs out of files.
-/

import ProtoEmit.FileTree
import ProtoEmit.Schema.Decode

namespace ProtoEmit

/-- Why there is no program. -/
inductive LoadError where
  | unreadable (file : Path) (why : Refusal)
  /-- The file is not UTF-8. -/
  | notText
  | invalid (file : Path) (issues : List Issue)
deriving Repr

/-- The text of an error; a breakdown has none. -/
def LoadError.message? : LoadError → Option String
  | .unreadable file why => (why.report? file).map fun text => "Cannot read IR file " ++ file.toString ++ ": " ++ text
  | .notText => none
  | .invalid file _ => some ("Invalid IR in " ++ file.toString)

/-- The program that a file holds. -/
def Program.load (t : FileTree) (file : Path) : Except LoadError Program :=
  match t.read file with
  | .error why => .error (.unreadable file why)
  | .ok content =>
    match String.fromUTF8? content with
    | none => .error .notText
    | some text =>
      match Schema.ofText Schema.program text with
      | .valid p => .ok p
      | .invalid issues => .error (.invalid file issues)

end ProtoEmit
