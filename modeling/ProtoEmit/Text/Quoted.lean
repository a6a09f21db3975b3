/-
  Text between quotes, as error messages show it.

  Apostrophes enclose the text, or quotation marks if it holds an apostrophe and no quotation mark. Inside, the
  backslash and the enclosing mark are escaped, and so is every character without a printed form: by a letter
  where there is one, otherwise by its code point in two, four or eight hexadecimal digits.
-/

import ProtoEmit.Text.PrintableTable
import ProtoEmit.Text.Range

namespace ProtoEmit.Text

/-- `n` in lower-case hexadecimal digits, filled up with zeros to `width`. -/
def hexPadded (width n : Nat) : String :=
  let digits := Nat.toDigits 16 n
  String.ofList (List.replicate (width - digits.length) '0' ++ digits)

/-- The spelling of a character between quotation marks `mark`. -/
def quoteChar (mark c : Char) : String :=
  if c = mark || c = '\\' then String.ofList ['\\', c]
  else if c = '\t' then "\\t"
  else if c = '\n' then "\\n"
  else if c = '\r' then "\\r"
  else if !inRanges unprintableRanges c then String.singleton c
  else if c.toNat < 0x100 then "\\x" ++ hexPadded 2 c.toNat
  else if c.toNat < 0x10000 then "\\u" ++ hexPadded 4 c.toNat
  else "\\U" ++ hexPadded 8 c.toNat

/-- A text in quotes. -/
def quote (s : String) : String :=
  let cs := s.toList
  let mark := if cs.contains '\'' && !cs.contains '"' then '"' else '\''
  String.singleton mark ++ String.join (cs.map (quoteChar mark)) ++ String.singleton mark

end ProtoEmit.Text
