/-
# The shortest decimal that reads back

A double stands for all reals that round to it: those from halfway to its lower
neighbour up to halfway to its upper neighbour. Of the decimals among them,
`shortest` selects one with the fewest digits and, of these, the nearest to the
double itself; of two equally near ones it takes the upper. Everything is
computed exactly, on natural numbers over a common unit.
-/

import Polyflow.Binary64.Basic

namespace Polyflow

/-- The number `digits * 10 ^ exponent`. -/
structure Decimal where
  digits : Nat
  exponent : Int
deriving DecidableEq, Repr

/-- The same number without trailing zeros among its digits. A number of zero
digits is left as it is. -/
def Decimal.strip (d : Decimal) : Decimal :=
  if h : 0 < d.digits ∧ d.digits % 10 = 0 then
    strip ⟨d.digits / 10, d.exponent + 1⟩
  else d
termination_by d.digits
decreasing_by omega

namespace Binary64

/-- A positive finite double together with the reals that round to it. The
numbers are counted in parts of one `unit`th. -/
structure Interval where
  /-- Halfway to the neighbour below. -/
  low : Nat
  /-- The double itself. -/
  value : Nat
  /-- Halfway to the neighbour above. -/
  high : Nat
  /-- How many parts make one. -/
  unit : Nat
  /-- Whether the two ends round to the double. -/
  closed : Bool

/-- The interval of a finite magnitude. With an exponent field of zero the
fraction counts multiples of `2 ^ (-1074)`; otherwise a leading one is implied.
The ends belong to the doubles whose last bit is zero. Just above a power of two
the lower neighbour is only half as far away as the upper one. -/
def interval (x : Binary64) : Interval :=
  let field := x.magnitude / Nat.pow 2 52
  let fraction := x.magnitude % Nat.pow 2 52
  let mantissa := if field = 0 then fraction else Nat.pow 2 52 + fraction
  let shift := if field = 0 then 1 else field
  let below := if fraction = 0 && 1 < field then 1 else 2
  let scale := Nat.pow 2 (shift - 1075)
  { low := (4 * mantissa - below) * scale
    value := 4 * mantissa * scale
    high := (4 * mantissa + 2) * scale
    unit := 4 * Nat.pow 2 (1075 - shift)
    closed := mantissa % 2 = 0 }

namespace Interval

/-- Whether a multiple of `10 ^ exponent` lies in the interval. -/
def contains (reals : Interval) (d : Decimal) : Bool :=
  let point := d.digits * Nat.pow 10 d.exponent.toNat * reals.unit
  let low := reals.low * Nat.pow 10 (-d.exponent).toNat
  let high := reals.high * Nat.pow 10 (-d.exponent).toNat
  if reals.closed then low ≤ point && point ≤ high else low < point && point < high

/-- The least power of ten above the value, for a value that is not zero. Above
one it is the number of digits before the point; below one it follows from the
digits of the inverse, since no power of two below one is a power of ten. -/
def leading (reals : Interval) : Int :=
  if reals.unit ≤ reals.value then
    (Nat.toDigits 10 (reals.value / reals.unit)).length
  else
    1 - ((Nat.toDigits 10 (reals.unit / reals.value)).length : Int)

/-- The nearest multiple of `10 ^ exponent` among those in the interval, the
upper of two equally near ones. Only the two multiples next to the value can be
nearest. -/
def nearest? (reals : Interval) (exponent : Int) : Option Decimal :=
  let point := reals.value * Nat.pow 10 (-exponent).toNat
  let grid := reals.unit * Nat.pow 10 exponent.toNat
  let lower : Decimal := ⟨point / grid, exponent⟩
  let upper : Decimal := ⟨point / grid + 1, exponent⟩
  match reals.contains lower, reals.contains upper with
  | true, true => if 2 * (point % grid) < grid then some lower else some upper
  | true, false => some lower
  | false, true => some upper
  | false, false => none

end Interval

/-- The exact value of a finite double: a double is a multiple of a power of two,
and a multiple of `2 ^ (-n)` is one of `10 ^ (-n)`. -/
def exactDecimal (x : Binary64) : Decimal :=
  let field := x.magnitude / Nat.pow 2 52
  let fraction := x.magnitude % Nat.pow 2 52
  let mantissa := if field = 0 then fraction else Nat.pow 2 52 + fraction
  let shift := if field = 0 then 1 else field
  ⟨mantissa * Nat.pow 2 (shift - 1075) * Nat.pow 5 (1075 - shift), -((1075 - shift : Nat) : Int)⟩

/-- The decimal with the fewest digits that reads back as a finite double, for a
double that is not zero. Coarse grids are tried before fine ones; seventeen
digits suffice for every double, and the exact value stands behind them. -/
def shortest (x : Binary64) : Decimal :=
  let reals := x.interval
  let leading := reals.leading
  let found? := (List.range 17).findSome? fun (further : Nat) =>
    reals.nearest? (leading - 1 - further)
  (found?.getD x.exactDecimal).strip

end Binary64

end Polyflow
