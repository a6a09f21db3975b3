/-
  Lower-casing of whole texts.

  Each character goes to its lower-case form; one of them, the capital I with a dot, has a form of two
  characters. A capital sigma goes to the final form where it ends a word: after a cased letter, and not
  before one, looking through ignorable characters on both sides.
-/

import ProtoEmit.Text.CaseTable
import ProtoEmit.Text.Range

namespace ProtoEmit.Text

/-- A cased letter, as the rule for a final sigma sees it. -/
def isCased (c : Char) : Bool :=
  inRanges casedRanges c

/-- A character that the rule for a final sigma looks through. -/
def isCaseIgnorable (c : Char) : Bool :=
  inRanges caseIgnorableRanges c

/-- Whether `c` is one of the characters of a run. -/
def CaseRun.covers (r : CaseRun) (c : Char) : Bool :=
  decide (r.first ≤ c.toNat) && decide (c.toNat ≤ r.last) && (c.toNat - r.first) % r.stride == 0

/-- The lower-case form of a character of a run. -/
def CaseRun.image (r : CaseRun) (c : Char) : Char :=
  Char.ofNat (r.target + (c.toNat - r.first))

/-- The capital I with a dot above. -/
def capitalDottedI : Char := Char.ofNat 0x130

/-- The capital sigma. -/
def capitalSigma : Char := Char.ofNat 0x3A3

/-- The small sigma at the end of a word. -/
def finalSigma : Char := Char.ofNat 0x3C2

/-- The dot above as a combining mark. -/
def combiningDot : Char := Char.ofNat 0x307

/-- The lower-case form of one character standing alone. -/
def lowerChar (c : Char) : List Char :=
  if c = capitalDottedI then ['i', combiningDot]
  else match lowerRuns.find? (·.covers c) with
    | some r => [r.image c]
    | none => [c]

/-- Whether the first character that is not ignorable is a cased letter. -/
def meetsCased (cs : List Char) : Bool :=
  match cs.dropWhile isCaseIgnorable with
  | [] => false
  | c :: _ => isCased c

/-- The lower-case form of a character between `before`, nearest first, and `after`. -/
def lowerBetween (before : List Char) (c : Char) (after : List Char) : List Char :=
  if c = capitalSigma && meetsCased before && !meetsCased after then [finalSigma]
  else lowerChar c

/-- The lower-case form of a text whose earlier characters, nearest first, are `before`. -/
def lowerFrom (before : List Char) : List Char → List Char
  | [] => []
  | c :: after => lowerBetween before c after ++ lowerFrom (c :: before) after

/-- The lower-case form of a text. -/
def lower (s : String) : String :=
  String.ofList (lowerFrom [] s.toList)

/-- A text whose first character alone is lower-cased. -/
def lowerFirst (s : String) : String :=
  match s.toList with
  | [] => ""
  | c :: cs => String.ofList (lowerChar c ++ cs)

end ProtoEmit.Text
