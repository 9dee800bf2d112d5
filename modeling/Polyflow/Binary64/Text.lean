/-
# Numbers as text

A double is written with the fewest digits that identify it, positionally when
its size is moderate and with an exponent otherwise. A positional form always
has a digit behind the point, so no double looks like an integer.
-/

import Polyflow.Binary64.Shortest

namespace Polyflow.Binary64

/-- The least and the first too large power of ten that are written
positionally: from `10 ^ (-4)` up to, but not including, `10 ^ 16`. -/
def positional (power : Int) : Bool :=
  -4 ≤ power && power < 16

/-- A number of zeros. -/
def zeros (count : Nat) : List Char :=
  List.replicate count '0'

/-- Digits with the point behind the first `before` of them, filled up with
zeros on either side. -/
def placePoint (digits : List Char) (before : Int) : List Char :=
  if before ≤ 0 then
    ['0', '.'] ++ zeros (-before).toNat ++ digits
  else if digits.length ≤ before then
    digits ++ zeros (before - digits.length).toNat ++ ['.', '0']
  else
    digits.take before.toNat ++ ['.'] ++ digits.drop before.toNat

/-- Digits with the point behind the first, if others follow, and the power of
ten of the first digit. -/
def placeExponent (digits : List Char) (power : Int) : List Char :=
  let fraction := digits.drop 1
  digits.take 1 ++ (if fraction.isEmpty then [] else '.' :: fraction) ++
    'e' :: (toString power).toList

/-- The text of a decimal that is not zero. -/
def renderDecimal (d : Decimal) : List Char :=
  let digits := Nat.toDigits 10 d.digits
  let before : Int := digits.length + d.exponent
  if positional (before - 1) then placePoint digits before
  else placeExponent digits (before - 1)

/-- The text of the absolute value. -/
def renderMagnitude (x : Binary64) : List Char :=
  if x.isInfinite then ['i', 'n', 'f']
  else if x.isZero then ['0', '.', '0']
  else renderDecimal x.shortest

/-- The text of a double. Zero and infinity carry their sign; not-a-number has
none. -/
def render (x : Binary64) : String :=
  if x.isNaN then "NaN"
  else String.ofList ((if x.isNegative then ['-'] else []) ++ x.renderMagnitude)

end Polyflow.Binary64
