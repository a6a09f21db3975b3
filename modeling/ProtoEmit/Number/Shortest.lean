/-
  The shortest decimal that reads back as a double, and its text.

  Grids of one, two, … seventeen digits are tried in turn. The double has two neighbours on each grid; the first
  that reads back as the double gives the digits, and the nearer of the two is tried first.
-/

import ProtoEmit.Number.Decimal

namespace ProtoEmit

/-- The position of the decimal point of a positive fraction: ten to that power is the first one above it. -/
def pointPosition (num den : Nat) : Int :=
  if den ≤ num then (decimalLength (num / den) : Int)
  else 1 - (decimalLength ((den + num - 1) / num - 1) : Int)

/-- The neighbours of a positive fraction on the grid with `count` digits, the nearer one first; of two that are
    equally near, the even one. -/
def gridNeighbours (num den count : Nat) : List Decimal :=
  let e := pointPosition num den - (count : Int)
  let (n, d) := if 0 ≤ e then (num, den * Nat.pow 10 e.toNat) else (num * Nat.pow 10 (-e).toNat, den)
  let below := n / d
  if roundHalfEven n d = below then [⟨false, below, e⟩, ⟨false, below + 1, e⟩]
  else [⟨false, below + 1, e⟩, ⟨false, below, e⟩]

/-- Whether two significands with their exponents are one value. -/
def sameDouble (m : Nat) (e : Int) : Binary64 → Bool
  | .finite _ m' e' =>
    let least := min e e'
    m * Nat.pow 2 (e - least).toNat == m' * Nat.pow 2 (e' - least).toNat
  | _ => false

/-- The decimal that is exactly `m * 2 ^ e`. -/
def exactDecimal (m : Nat) (e : Int) : Decimal :=
  if 0 ≤ e then ⟨false, m * Nat.pow 2 e.toNat, 0⟩ else ⟨false, m * Nat.pow 5 (-e).toNat, e⟩

/-- The shortest decimal that reads back as the double `m * 2 ^ e`. -/
def shortestDecimal (m : Nat) (e : Int) : Decimal :=
  let num := if 0 ≤ e then m * Nat.pow 2 e.toNat else m
  let den := if 0 ≤ e then 1 else Nat.pow 2 (-e).toNat
  let candidates := (List.range 17).flatMap fun k => gridNeighbours num den (k + 1)
  (candidates.find? fun d => sameDouble m e d.toDouble).getD (exactDecimal m e)

/-- The digits of a decimal without zeros at the end. -/
def significantDigits (d : Decimal) : List Char :=
  ((Nat.toDigits 10 d.digits).reverse.dropWhile (· == '0')).reverse

/-- Exponents from which on, and up to which, numbers are written with a point and no power of ten. -/
def positionalFrom : Int := -4

def positionalBelow : Int := 16

/-- The text of a positive decimal: with a point from a ten-thousandth up to ten to the sixteenth, otherwise with
    a power of ten of at least two digits. -/
def decimalText (d : Decimal) : String :=
  let digits := significantDigits d
  let power : Int := d.exponent + (decimalLength d.digits : Int) - 1
  if positionalFrom ≤ power && power < positionalBelow then
    if power < 0 then
      "0." ++ String.ofList (List.replicate (-power - 1).toNat '0' ++ digits)
    else
      let whole := digits.take (power.toNat + 1)
      let fraction := digits.drop (power.toNat + 1)
      String.ofList (whole ++ List.replicate (power.toNat + 1 - whole.length) '0') ++ "."
        ++ (if fraction.isEmpty then "0" else String.ofList fraction)
  else
    let exponent := Nat.toDigits 10 power.natAbs
    String.ofList (digits.take 1)
      ++ (if digits.length ≤ 1 then "" else "." ++ String.ofList (digits.drop 1))
      ++ (if power < 0 then "e-" else "e+")
      ++ (if exponent.length < 2 then "0" else "") ++ String.ofList exponent

/-- The text of a double. -/
def Binary64.text : Binary64 → String
  | .nan => "nan"
  | .infinite negative => if negative then "-inf" else "inf"
  | .finite negative m e =>
    (if negative then "-" else "") ++ (if m = 0 then "0.0" else decimalText (shortestDecimal m e))

end ProtoEmit
