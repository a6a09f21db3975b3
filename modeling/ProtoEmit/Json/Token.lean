/-
  The tokens of a JSON text.

  The text is read one character at a time. Words (numbers, `true`, `null`, `NaN`, …) run as far as they can and
  are told apart when they end; strings collect their characters and escapes, and surrogate escapes are paired
  when the string ends.
-/

import ProtoEmit.Json.Basic

namespace ProtoEmit.Json

/-- A token: punctuation, or a value without parts. -/
inductive Token where
  | openArray
  | closeArray
  | openObject
  | closeObject
  | colon
  | comma
  | value (v : Json)
deriving Repr

/-- A piece of a string: a plain character or a numeric escape. -/
inductive Piece where
  | char (c : Char)
  | unit (n : Nat)
deriving Repr

/-- Where the reader of tokens stands: between tokens, in a word, in a string, after the backslash of an escape,
    or in its hexadecimal digits. What has been read of the token stands in reverse. -/
inductive Lexing where
  | between
  | word (read : List Char)
  | text (read : List Piece)
  | escape (read : List Piece)
  | hex (read : List Piece) (missing : Nat) (value : Nat)
deriving Repr

def isHighSurrogate (n : Nat) : Bool := decide (0xD800 ≤ n) && decide (n ≤ 0xDBFF)

def isLowSurrogate (n : Nat) : Bool := decide (0xDC00 ≤ n) && decide (n ≤ 0xDFFF)

/-- The code point that a pair of surrogates stands for. -/
def ofSurrogates (high low : Nat) : Char :=
  Char.ofNat (0x10000 + (high - 0xD800) * 0x400 + (low - 0xDC00))

/-- The characters of a string, unless a surrogate lacks its partner. -/
def Piece.join? : List Piece → Option (List Char)
  | [] => some []
  | .char c :: rest => (join? rest).map (c :: ·)
  | .unit n :: rest =>
    if isHighSurrogate n then
      match rest with
      | .unit m :: rest' => if isLowSurrogate m then (join? rest').map (ofSurrogates n m :: ·) else none
      | _ => none
    else if isLowSurrogate n then none
    else (join? rest).map (Char.ofNat n :: ·)

def isBlank (c : Char) : Bool :=
  c == ' ' || c == '\t' || c == '\n' || c == '\r'

def isWordChar (c : Char) : Bool :=
  c.isAlphanum || c == '+' || c == '-' || c == '.'

/-- The value of a hexadecimal digit. -/
def hexValue? (c : Char) : Option Nat :=
  if c.isDigit then some (c.toNat - '0'.toNat)
  else if 'a' ≤ c && c ≤ 'f' then some (c.toNat - 'a'.toNat + 10)
  else if 'A' ≤ c && c ≤ 'F' then some (c.toNat - 'A'.toNat + 10)
  else none

/-- The value of an exponent part, and 0 of an absent one. -/
def exponent? : List Char → Option Int
  | [] => some 0
  | e :: rest =>
    if e != 'e' && e != 'E' then none
    else
      let (negative, digits) := match rest with
        | '-' :: ds => (true, ds)
        | '+' :: ds => (false, ds)
        | ds => (false, ds)
      if digits.isEmpty || !digits.all Char.isDigit then none
      else some (if negative then -(ofDigits digits : Int) else ofDigits digits)

/-- The number with the given sign that a word writes. The digits before a point or exponent are limited, those
    after it are not. -/
def unsigned? (negative : Bool) (w : List Char) : Option Json :=
  let whole := w.takeWhile Char.isDigit
  if !isWhole whole || decide (maxDigits < whole.length) then none
  else match w.dropWhile Char.isDigit with
    | [] => some (.integer (if negative then -(ofDigits whole : Int) else ofDigits whole))
    | '.' :: rest =>
      let fraction := rest.takeWhile Char.isDigit
      if fraction.isEmpty then none
      else (exponent? (rest.dropWhile Char.isDigit)).map fun e =>
        .number (.decimal ⟨negative, ofDigits (whole ++ fraction), e - fraction.length⟩)
    | rest => (exponent? rest).map fun e => .number (.decimal ⟨negative, ofDigits whole, e⟩)

/-- The value that a word writes. -/
def ofWord? (w : List Char) : Option Json :=
  if w = "true".toList then some (.bool true)
  else if w = "false".toList then some (.bool false)
  else if w = "null".toList then some .null
  else if w = "NaN".toList then some (.number .nan)
  else if w = "Infinity".toList then some (.number (.infinity false))
  else if w = "-Infinity".toList then some (.number (.infinity true))
  else match w with
    | '-' :: rest => unsigned? true rest
    | _ => unsigned? false w

/-- The character that a one-letter escape stands for. -/
def escaped? : Char → Option Char
  | '"' => some '"'
  | '\\' => some '\\'
  | '/' => some '/'
  | 'b' => some '\x08'
  | 'f' => some '\x0c'
  | 'n' => some '\n'
  | 'r' => some '\r'
  | 't' => some '\t'
  | _ => none

/-- Reads a character between tokens; `tokens` are those before it, in reverse. -/
def startToken (tokens : List Token) (c : Char) : Option (Lexing × List Token) :=
  if isBlank c then some (.between, tokens)
  else if isWordChar c then some (.word [c], tokens)
  else match c with
    | '"' => some (.text [], tokens)
    | '[' => some (.between, .openArray :: tokens)
    | ']' => some (.between, .closeArray :: tokens)
    | '\x7b' => some (.between, .openObject :: tokens)
    | '\x7d' => some (.between, .closeObject :: tokens)
    | ':' => some (.between, .colon :: tokens)
    | ',' => some (.between, .comma :: tokens)
    | _ => none

/-- Reads one more character. -/
def Lexing.step (state : Lexing × List Token) (c : Char) : Option (Lexing × List Token) :=
  match state with
  | (.between, tokens) => startToken tokens c
  | (.word read, tokens) =>
    if isWordChar c then some (.word (c :: read), tokens)
    else (ofWord? read.reverse).bind fun v => startToken (.value v :: tokens) c
  | (.text read, tokens) =>
    if c = '"' then
      (Piece.join? read.reverse).map fun cs => (.between, .value (.string (String.ofList cs)) :: tokens)
    else if c = '\\' then some (.escape read, tokens)
    else if c.toNat < 0x20 then none
    else some (.text (.char c :: read), tokens)
  | (.escape read, tokens) =>
    if c = 'u' then some (.hex read 4 0, tokens)
    else (escaped? c).map fun d => (.text (.char d :: read), tokens)
  | (.hex read missing value, tokens) =>
    (hexValue? c).map fun h =>
      let value := 16 * value + h
      if missing ≤ 1 then (.text (.unit value :: read), tokens)
      else (.hex read (missing - 1) value, tokens)

/-- The tokens that have been read when the text ends. -/
def Lexing.finish : Lexing × List Token → Option (List Token)
  | (.between, tokens) => some tokens.reverse
  | (.word read, tokens) => (ofWord? read.reverse).map fun v => (.value v :: tokens).reverse
  | _ => none

/-- The tokens of a text. -/
def tokens? (cs : List Char) : Option (List Token) :=
  (cs.foldlM Lexing.step (.between, [])).bind Lexing.finish

end ProtoEmit.Json
