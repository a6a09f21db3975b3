/-
  The other spellings under which integers and truth values are accepted.

  An integer may come as a truth value, as a number with a whole value, or as text. A truth value may come as 0
  or 1 or as one of the usual words.
-/

import ProtoEmit.Checked
import ProtoEmit.Number.Decimal
import ProtoEmit.Text.Blank
import ProtoEmit.Text.Split

namespace ProtoEmit.Coercion

/-- The integer that a text writes plainly: digits with no needless zero, and a minus at most before them. -/
def plainInteger? (cs : List Char) : Option Int :=
  let (negative, digits) := match cs with
    | '-' :: rest => (true, rest)
    | _ => (false, cs)
  if isWhole digits && digits.all Char.isDigit && decide (digits.length ≤ maxDigits) then
    some (if negative then -(ofDigits digits : Int) else ofDigits digits)
  else none

/-- Whether a text starts as a plain integer does, and with more digits than there may be. -/
def startsHuge (cs : List Char) : Bool :=
  let digits := (match cs with
    | '-' :: rest => rest
    | _ => cs).takeWhile Char.isDigit
  isWhole digits && decide (maxDigits < digits.length)

/-- A text without white space around it. -/
def trim (cs : List Char) : List Char :=
  Text.dropEndWhile Text.isWhite (cs.dropWhile Text.isWhite)

/-- Goes on after a zero, past zeros and underscores, up to another digit or a minus. Of zeros before a point, or
    of zeros alone, the character `last` that was read last stays. -/
def skipZeros (last : Char) : List Char → Option (List Char)
  | [] => some [last]
  | c :: rest =>
    if c = '0' || c = '_' then skipZeros c rest
    else if c.isDigit || c = '-' then some (c :: rest)
    else if c = '.' then some (last :: c :: rest)
    else none

/-- A text without the zeros in front. -/
def withoutZeros? : List Char → Option (List Char)
  | [] => none
  | c :: rest =>
    if c = '0' then skipZeros c rest
    else if c.isDigit || c = '-' then some (c :: rest)
    else none

/-- A text without needless zeros in front of its digits. A plus before them goes too, a minus stays. -/
def unpadded? : List Char → Option (List Char)
  | '-' :: rest => (withoutZeros? rest).map ('-' :: ·)
  | '+' :: '-' :: _ => none
  | '+' :: rest => withoutZeros? rest
  | cs => withoutZeros? cs

/-- A text without a fraction of zeros, if it has one. -/
def withoutFraction (cs : List Char) : List Char :=
  match cs.dropWhile (· != '.') with
  | '.' :: '0' :: zeros => if zeros.all (· == '0') then cs.takeWhile (· != '.') else cs
  | _ => cs

/-- Whether underscores stand one by one, and neither first nor last. -/
def isGrouped (cs : List Char) : Bool :=
  (Text.pieces '_' cs).all fun p => !p.isEmpty

/-- A text without the underscores between its characters. -/
def ungrouped? (cs : List Char) : Option (List Char) :=
  if isGrouped cs then some (cs.filter (· != '_')) else none

/-- The plain form of an integer that is written with more than it needs. -/
def tidied? (cs : List Char) : Option (List Char) :=
  (unpadded? (trim cs)).bind fun ds => ungrouped? (withoutFraction ds)

/-- The integer that a text writes, plainly or not. -/
def integerOfText (s : String) : Checked Int :=
  let cs := s.toList
  match plainInteger? cs with
  | some n => .valid n
  | none =>
    if startsHuge cs then .fail .hugeInteger
    else match (tidied? cs).bind plainInteger? with
      | some n => .valid n
      | none => .fail .unreadableInteger

/-- The integer that a number is, if the number is whole and fits into 64 bits. -/
def integerOfNumber (x : Number) : Checked Int :=
  match x.toDouble with
  | .finite negative m e =>
    match wholeMagnitude? m e with
    | none => .fail .fractional
    | some n =>
      if n < Nat.pow 2 63 then .valid (if negative then -(n : Int) else n) else .fail .hugeInteger
  | _ => .fail .notFinite

/-- The truth value that an integer stands for. -/
def boolOfInteger (n : Int) : Checked Bool :=
  if n = 0 then .valid false
  else if n = 1 then .valid true
  else if -(Int.pow 2 63) ≤ n ∧ n < Int.pow 2 63 then .fail .unreadableBoolean
  else .fail .notBoolean

/-- The truth value that a number stands for: that of its integer, if it has one. -/
def boolOfNumber (x : Number) : Checked Bool :=
  match integerOfNumber x with
  | .valid n => boolOfInteger n
  | .invalid _ => .fail .notBoolean

/-- Words for a false value. -/
def falseWords : List String := ["0", "off", "f", "false", "n", "no"]

/-- Words for a true value. -/
def trueWords : List String := ["1", "on", "t", "true", "y", "yes"]

/-- The truth value that a word stands for, in any case. -/
def boolOfText (s : String) : Checked Bool :=
  let w := s.map Char.toLower
  if falseWords.contains w then .valid false
  else if trueWords.contains w then .valid true
  else .fail .unreadableBoolean

end ProtoEmit.Coercion
