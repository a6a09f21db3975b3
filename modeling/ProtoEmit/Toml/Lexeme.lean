/-
  The smallest parts of a TOML text: blanks and comments, strings, keys, numbers, dates and times.

  Each reader takes the text from its first character on and gives back what follows the part it has read.
-/

import ProtoEmit.Json.Token
import ProtoEmit.Toml.Basic

namespace ProtoEmit.Toml

/-- Why a text is not read. -/
inductive Fault where
  /-- It is no TOML. -/
  | malformed
  /-- An integer has more digits than it may have. -/
  | hugeInteger
  /-- A value stands inside more arrays and inline tables than it may. -/
  | tooDeep
deriving DecidableEq, Repr

/-- What a reader has found; there is nothing but a malformed text where it has found nothing. -/
def wellFormed {α : Type} : Option α → Except Fault α
  | some a => .ok a
  | none => .error .malformed

/-- Reads a part of a text, and gives back the rest of it. -/
abbrev Reader (α : Type) := List Char → Option (α × List Char)

/-! ## Blanks and comments -/

def isBlank (c : Char) : Bool :=
  c == ' ' || c == '\t'

def isBlankOrBreak (c : Char) : Bool :=
  isBlank c || c == '\n'

/-- Control characters, which stand in no comment and no string of one line; the tab is none of them. -/
def isControl (c : Char) : Bool :=
  (decide (c.toNat < 0x20) && c != '\t') || c.toNat == 0x7F

def skipBlanks (cs : List Char) : List Char :=
  cs.dropWhile isBlank

/-- Skips a comment up to the end of its line. -/
def skipComment : List Char → Option (List Char)
  | '#' :: rest =>
    if (rest.takeWhile (· != '\n')).any isControl then none else some (rest.dropWhile (· != '\n'))
  | cs => some cs

/-- Skips blanks, line breaks and comments. -/
def skipFiller (cs : List Char) : Option (List Char) :=
  match cs.dropWhile isBlankOrBreak with
  | '#' :: rest =>
    match skipComment ('#' :: rest) with
    | none => none
    | some after => if after.length < cs.length then skipFiller after else some after
  | after => some after
termination_by cs.length

/-- Line breaks of two characters become plain ones. -/
def plainBreaks : List Char → List Char
  | '\r' :: '\n' :: rest => '\n' :: plainBreaks rest
  | c :: rest => c :: plainBreaks rest
  | [] => []

/-- Takes a text off the front of another one. -/
def dropText? : List Char → List Char → Option (List Char)
  | [], cs => some cs
  | p :: ps, c :: cs => if p = c then dropText? ps cs else none
  | _ :: _, [] => none

/-! ## Strings -/

/-- The character with a code of `count` hexadecimal digits. -/
def hexCode (count : Nat) (cs : List Char) : Option (List Char × List Char) :=
  let digits := cs.take count
  if digits.length < count then none
  else (digits.mapM Json.hexValue?).bind fun values =>
    let code := values.foldl (fun n d => 16 * n + d) 0
    if code < 0xD800 || (0xDFFF < code && code ≤ 0x10FFFF) then some ([Char.ofNat code], cs.drop count) else none

/-- Skips the rest of a line that ends with a backslash, and all blanks and line breaks after it. -/
def skipContinuation (cs : List Char) : Option (List Char) :=
  match skipBlanks cs with
  | '\n' :: rest => some (rest.dropWhile isBlankOrBreak)
  | _ => none

/-- What an escape stands for, after its backslash. -/
def escape (multiline : Bool) : List Char → Option (List Char × List Char)
  | [] => none
  | c :: rest =>
    if multiline && isBlankOrBreak c then (skipContinuation (c :: rest)).map fun after => ([], after)
    else match c with
      | 'u' => hexCode 4 rest
      | 'U' => hexCode 8 rest
      | 'b' => some (['\x08'], rest)
      | 't' => some (['\t'], rest)
      | 'n' => some (['\n'], rest)
      | 'f' => some (['\x0c'], rest)
      | 'r' => some (['\r'], rest)
      | '"' => some (['"'], rest)
      | '\\' => some (['\\'], rest)
      | _ => none

/-- What follows the closing mark, if the text starts with it. -/
def closing? (multiline : Bool) (mark : Char) (cs : List Char) : Option (List Char) :=
  dropText? (List.replicate (if multiline then 3 else 1) mark) cs

/-- Whether a character may stand in a string as it is. -/
def isPlain (multiline : Bool) (c : Char) : Bool :=
  !isControl c || (multiline && c == '\n')

/-- The characters of a string with escapes, up to its closing mark. -/
def escapedBody (multiline : Bool) (cs : List Char) : Option (List Char × List Char) :=
  match closing? multiline '"' cs with
  | some rest => some ([], rest)
  | none =>
    match cs with
    | [] => none
    | '\\' :: rest =>
      match escape multiline rest with
      | none => none
      | some (piece, after) =>
        if after.length ≤ rest.length then
          (escapedBody multiline after).map fun (body, rest) => (piece ++ body, rest)
        else none
    | c :: rest =>
      if isPlain multiline c then (escapedBody multiline rest).map fun (body, rest) => (c :: body, rest)
      else none
termination_by cs.length
decreasing_by all_goals simp <;> omega

/-- The characters of a string without escapes, up to its closing mark. -/
def literalBody (multiline : Bool) (cs : List Char) : Option (List Char × List Char) :=
  match closing? multiline '\'' cs with
  | some rest => some ([], rest)
  | none =>
    match cs with
    | [] => none
    | c :: rest =>
      if isPlain multiline c then (literalBody multiline rest).map fun (body, rest) => (c :: body, rest)
      else none

/-- At most two more marks right after the closing ones belong to the string. -/
def extraMarks (mark : Char) (body : List Char) : List Char → List Char × List Char
  | c :: d :: rest =>
    if c = mark then
      if d = mark then (body ++ [mark, mark], rest) else (body ++ [mark], d :: rest)
    else (body, c :: d :: rest)
  | [c] => if c = mark then (body ++ [mark], []) else (body, [c])
  | [] => (body, [])

/-- A string of one line. -/
def lineString : Reader String
  | '"' :: rest => (escapedBody false rest).map fun (body, after) => (String.ofList body, after)
  | '\'' :: rest => (literalBody false rest).map fun (body, after) => (String.ofList body, after)
  | _ => none

/-- Drops a line break in front. -/
def dropBreak : List Char → List Char
  | '\n' :: rest => rest
  | cs => cs

/-- A string of either form, of one line or of several. -/
def string : Reader String
  | '"' :: '"' :: '"' :: rest =>
    (escapedBody true (dropBreak rest)).map fun (body, after) =>
      let (body, after) := extraMarks '"' body after
      (String.ofList body, after)
  | '\'' :: '\'' :: '\'' :: rest =>
    (literalBody true (dropBreak rest)).map fun (body, after) =>
      let (body, after) := extraMarks '\'' body after
      (String.ofList body, after)
  | cs => lineString cs

/-! ## Keys -/

def isBareKeyChar (c : Char) : Bool :=
  c.isAlphanum || c == '-' || c == '_'

/-- One part of a key. -/
def keyPart : Reader String
  | [] => none
  | c :: rest =>
    if isBareKeyChar c then
      some (String.ofList ((c :: rest).takeWhile isBareKeyChar), (c :: rest).dropWhile isBareKeyChar)
    else lineString (c :: rest)

/-- A key: parts with points between them, and the blanks after it. -/
def key (cs : List Char) : Option (List String × List Char) :=
  match keyPart cs with
  | none => none
  | some (part, rest) =>
    match skipBlanks rest with
    | '.' :: more =>
      let next := skipBlanks more
      if next.length < cs.length then (key next).map fun (parts, after) => (part :: parts, after) else none
    | after => some ([part], after)
termination_by cs.length

/-! ## Numbers -/

/-- Digits in a row, with single underscores allowed between them; the underscores are left out. -/
def digitsAfter (isDigit : Char → Bool) : List Char → List Char × List Char
  | '_' :: c :: rest =>
    if isDigit c then
      let (more, after) := digitsAfter isDigit rest
      (c :: more, after)
    else ([], '_' :: c :: rest)
  | c :: rest =>
    if isDigit c then
      let (more, after) := digitsAfter isDigit rest
      (c :: more, after)
    else ([], c :: rest)
  | [] => ([], [])

/-- At least one digit, and more in a row. -/
def digitRun (isDigit : Char → Bool) : Reader (List Char)
  | c :: rest =>
    if isDigit c then
      let (more, after) := digitsAfter isDigit rest
      some (c :: more, after)
    else none
  | [] => none

/-- The number that digits write in a base. -/
def ofBase (base : Nat) (digits : List Char) : Int :=
  digits.foldl (fun n c => base * n + (Json.hexValue? c).getD 0) 0

/-- An integer in base 16, 8 or 2, after its leading zero. -/
def basedInteger : Reader Value
  | 'x' :: rest =>
    (digitRun (fun c => (Json.hexValue? c).isSome) rest).map fun (ds, after) => (.integer (ofBase 16 ds), after)
  | 'o' :: rest =>
    (digitRun (fun c => decide ('0' ≤ c ∧ c ≤ '7')) rest).map fun (ds, after) => (.integer (ofBase 8 ds), after)
  | 'b' :: rest =>
    (digitRun (fun c => c == '0' || c == '1') rest).map fun (ds, after) => (.integer (ofBase 2 ds), after)
  | _ => none

/-- The digits of a fraction, if there is one. -/
def fraction (cs : List Char) : List Char × List Char :=
  match cs with
  | '.' :: rest => (digitRun Char.isDigit rest).getD ([], cs)
  | _ => ([], cs)

/-- An optional sign, and whether it is a minus. -/
def sign : List Char → Bool × List Char
  | '-' :: rest => (true, rest)
  | '+' :: rest => (false, rest)
  | cs => (false, cs)

/-- An exponent, if there is one. -/
def exponent (cs : List Char) : Option Int × List Char :=
  match cs with
  | e :: rest =>
    if e == 'e' || e == 'E' then
      let (negative, digits) := sign rest
      match digitRun Char.isDigit digits with
      | some (ds, after) => (some (if negative then -(ofDigits ds : Int) else ofDigits ds), after)
      | none => (none, cs)
    else (none, cs)
  | [] => (none, cs)

/-- The whole part of a decimal number: a zero, or digits without one in front. -/
def wholePart : Reader (List Char)
  | '0' :: rest => some (['0'], rest)
  | cs => digitRun Char.isDigit cs

/-- A decimal number, or a word for one that is not finite. Only an integer has a limit to its digits. -/
def decimalNumber (cs : List Char) : Except Fault (Value × List Char) :=
  let (negative, body) := sign cs
  match dropText? "inf".toList body, dropText? "nan".toList body with
  | some rest, _ => .ok (.number (.infinity negative), rest)
  | _, some rest => .ok (.number .nan, rest)
  | none, none => do
    let (whole, rest) ← wellFormed (wholePart body)
    let (frac, rest') := fraction rest
    let (exp, after) := exponent rest'
    if !frac.isEmpty || exp.isSome then
      .ok (.number (.decimal ⟨negative, ofDigits (whole ++ frac), exp.getD 0 - frac.length⟩), after)
    else if maxDigits < whole.length then .error .hugeInteger
    else .ok (.integer (if negative then -(ofDigits whole : Int) else ofDigits whole), after)

def number : List Char → Except Fault (Value × List Char)
  | '0' :: rest =>
    match basedInteger rest with
    | some found => .ok found
    | none => decimalNumber ('0' :: rest)
  | cs => decimalNumber cs

/-! ## Dates and times -/

/-- A number of exactly `count` digits. -/
def fixedDigits (count : Nat) (cs : List Char) : Option (Nat × List Char) :=
  let digits := cs.take count
  if digits.length = count && digits.all Char.isDigit then some (ofDigits digits, cs.drop count) else none

/-- A character. -/
def char (c : Char) : List Char → Option (List Char)
  | d :: rest => if d = c then some rest else none
  | [] => none

/-- Skips the digits after the seconds, if there are any. -/
def skipSubseconds (cs : List Char) : List Char :=
  match cs with
  | '.' :: d :: rest => if d.isDigit then rest.dropWhile Char.isDigit else cs
  | _ => cs

/-- Skips a time of the day. -/
def skipTime (cs : List Char) : Option (List Char) := do
  let (hour, cs) ← fixedDigits 2 cs
  let cs ← char ':' cs
  let (minute, cs) ← fixedDigits 2 cs
  let cs ← char ':' cs
  let (second, cs) ← fixedDigits 2 cs
  if hour < 24 && minute < 60 && second < 60 then some (skipSubseconds cs) else none

/-- Skips an offset from universal time, if there is one. -/
def skipOffset (cs : List Char) : List Char :=
  match cs with
  | c :: rest =>
    if c == 'Z' || c == 'z' then rest
    else if c == '+' || c == '-' then
      let offset := do
        let (hour, rest) ← fixedDigits 2 rest
        let rest ← char ':' rest
        let (minute, rest) ← fixedDigits 2 rest
        if hour < 24 && minute < 60 then some rest else none
      offset.getD cs
    else cs
  | [] => []

def isLeapYear (year : Nat) : Bool :=
  (year % 4 == 0 && year % 100 != 0) || year % 400 == 0

def daysInMonth (year month : Nat) : Nat :=
  if month = 2 then (if isLeapYear year then 29 else 28)
  else if month = 4 || month = 6 || month = 9 || month = 11 then 30
  else 31

/-- A date in the form of year, month and day, whether or not the month has that day. -/
def dateParts (cs : List Char) : Option ((Nat × Nat × Nat) × List Char) := do
  let (year, cs) ← fixedDigits 4 cs
  let cs ← char '-' cs
  let (month, cs) ← fixedDigits 2 cs
  let cs ← char '-' cs
  let (day, cs) ← fixedDigits 2 cs
  if 1 ≤ month && month ≤ 12 && 1 ≤ day && day ≤ 31 then some ((year, month, day), cs) else none

/-- Skips the time after a date, if there is one. -/
def skipTimeOfDate (cs : List Char) : Option (List Char) :=
  match cs with
  | c :: rest => if c == 'T' || c == 't' || c == ' ' then (skipTime rest).map skipOffset else none
  | [] => none

/-- The characters of `cs` before its end `rest`. -/
def written (cs rest : List Char) : String :=
  String.ofList (cs.take (cs.length - rest.length))

/-- What a date or a time turns out to be. -/
inductive Moment where
  /-- There is none. -/
  | absent
  /-- There is one, of a day that does not exist. -/
  | impossible
  | found (v : Value) (rest : List Char)

/-- A date, a date with a time, or a time. -/
def moment (cs : List Char) : Moment :=
  match dateParts cs with
  | some ((year, month, day), rest) =>
    if year = 0 || daysInMonth year month < day then .impossible
    else match skipTimeOfDate rest with
      | some after => .found (.dateTime (written cs after)) after
      | none => .found (.date (written cs rest)) rest
  | none =>
    match skipTime cs with
    | some rest => .found (.time (written cs rest)) rest
    | none => .absent

end ProtoEmit.Toml
