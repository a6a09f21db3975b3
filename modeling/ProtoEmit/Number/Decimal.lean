/-
  Decimal numbers and the doubles nearest to them.

  A decimal is read to the nearest value with a significand of 53 bits, ties going to the even significand, as
  a double holds it. All of it is exact arithmetic on natural numbers.
-/

namespace ProtoEmit

/-- A decimal as it is written: `digits` times ten to the `exponent`, with a sign of its own. -/
structure Decimal where
  negative : Bool := false
  digits : Nat
  exponent : Int := 0
deriving DecidableEq, Repr

/-- A number that need not be an integer. -/
inductive Number where
  | decimal (d : Decimal)
  | infinity (negative : Bool)
  | nan
deriving DecidableEq, Repr

/-- A double: a signed significand times a power of two, or a value beyond the greatest of these. -/
inductive Binary64 where
  | finite (negative : Bool) (significand : Nat) (exponent : Int)
  | infinite (negative : Bool)
  | nan
deriving DecidableEq, Repr

/-- The natural number nearest to `num / den`, a half going to the even neighbour. -/
def roundHalfEven (num den : Nat) : Nat :=
  let q := num / den
  let twice := 2 * (num % den)
  if twice < den then q
  else if den < twice then q + 1
  else q + q % 2

/-- `num / den` over two to the `exponent`, as a fraction. -/
def scaleDown (num den : Nat) (exponent : Int) : Nat × Nat :=
  if 0 ≤ exponent then (num, den * Nat.pow 2 exponent.toNat) else (num * Nat.pow 2 (-exponent).toNat, den)

/-- The exponent that gives `num / den` a significand of 53 bits, or the least exponent of a double. -/
def binaryExponent (num den : Nat) : Int :=
  let guess : Int := (num.log2 : Int) - (den.log2 : Int) - 52
  let (n, d) := scaleDown num den guess
  max (if n < d * Nat.pow 2 52 then guess - 1 else guess) (-1074)

/-- The double nearest to the positive fraction `num / den`. -/
def nearestDouble (negative : Bool) (num den : Nat) : Binary64 :=
  let e := binaryExponent num den
  let (n, d) := scaleDown num den e
  let m := roundHalfEven n d
  if e > 971 || (e == 971 && m == Nat.pow 2 53) then .infinite negative
  else .finite negative m e

/-- The number of decimal digits of `n`. -/
def decimalLength (n : Nat) : Nat :=
  (Nat.toDigits 10 n).length

/-- The double nearest to a decimal. Decimals far outside the range of doubles are told by their length. -/
def Decimal.toDouble (d : Decimal) : Binary64 :=
  let magnitude := d.exponent + (decimalLength d.digits : Int)
  if d.digits = 0 || magnitude < -330 then .finite d.negative 0 0
  else if 330 < magnitude then .infinite d.negative
  else if 0 ≤ d.exponent then nearestDouble d.negative (d.digits * Nat.pow 10 d.exponent.toNat) 1
  else nearestDouble d.negative d.digits (Nat.pow 10 (-d.exponent).toNat)

def Number.toDouble : Number → Binary64
  | .decimal d => d.toDouble
  | .infinity negative => .infinite negative
  | .nan => .nan

/-- The magnitude of a finite double if it is a whole number. -/
def wholeMagnitude? (significand : Nat) (exponent : Int) : Option Nat :=
  if 0 ≤ exponent then some (significand * Nat.pow 2 exponent.toNat)
  else if significand % Nat.pow 2 (-exponent).toNat = 0 then some (significand / Nat.pow 2 (-exponent).toNat)
  else none

/-- The natural number that a list of decimal digits writes. -/
def ofDigits (cs : List Char) : Nat :=
  cs.foldl (fun n c => 10 * n + (c.toNat - '0'.toNat)) 0

/-- Whether digits write a whole number without needless zeros: one zero, or no zero in front. -/
def isWhole (digits : List Char) : Bool :=
  match digits with
  | [] => false
  | ['0'] => true
  | c :: _ => c != '0'

/-- The greatest number of digits that an integer may be written with. -/
def maxDigits : Nat := 4300

end ProtoEmit
