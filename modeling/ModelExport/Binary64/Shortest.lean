/-
# ModelExport.Binary64.Shortest — the fewest digits that read back

The reals that round to a finite magnitude form an interval around it. Its ends
lie halfway to the two neighbours and belong to it exactly when the significand
is even; below a power of two the lower neighbour is twice as near. On the grid
of multiples of a power of ten, the points nearest to the magnitude are the one
just below and the one just above. The coarsest grid with such a point inside
the interval gives the fewest digits; of two points inside, the nearer one is
taken, and of two equally near ones the upper.
-/
import ModelExport.Binary64.Round

set_option autoImplicit false

namespace ModelExport

/-- The decimal number `digits · 10 ^ exponent`. -/
structure Decimal where
  digits : Nat
  exponent : Int
deriving DecidableEq

namespace Decimal

/-- How many decimal digits a number has; zero has one. -/
def digitCount (n : Nat) : Nat := (Nat.toDigits 10 n).length

/-- The power of ten that the first digit counts. -/
def leadingExponent (d : Decimal) : Int := d.exponent + digitCount d.digits - 1

/-- `10 ^ exponent` where the exponent is positive, and one otherwise. -/
def tenTo (exponent : Int) : Nat := Nat.pow 10 exponent.toNat

end Decimal

/-- Which of two equally near neighbours on a grid is taken. -/
inductive Tie where
  | upward
  | toEven
deriving DecidableEq

/-- Whether the neighbour below, at this multiple of the step, wins a tie. -/
def Tie.takesBelow (tie : Tie) (below : Nat) : Bool :=
  match tie with
  | .upward => false
  | .toEven => below % 2 == 0

namespace Binary64

/-- A finite positive magnitude and the ends of its rounding interval, each a multiple of
`2 ^ power`. -/
structure Interval where
  low : Nat
  value : Nat
  high : Nat
  power : Int
  closed : Bool

/-- The interval of reals that round to a finite positive magnitude, in quarters of its unit. -/
def interval (x : Binary64) : Interval where
  low := 4 * x.significand - if x.significand = leadingOne ∧ 1 < x.biased then 1 else 2
  value := 4 * x.significand
  high := 4 * x.significand + 2
  power := x.power - 2
  closed := x.significand % 2 = 0

/-- The greatest exponent whose power of ten does not exceed the value. -/
def Interval.leadingExponent (i : Interval) : Int :=
  let num := i.value * twoTo i.power
  let den := twoTo (-i.power)
  if den ≤ num then (Decimal.digitCount (num / den) : Int) - 1
  else -(Decimal.digitCount ((den - 1) / num) : Int)

/-- The point of the grid `10 ^ exponent` inside the interval that is nearest to the value, if
there is one. All lengths are counted in one common unit. -/
def Interval.onGrid? (i : Interval) (tie : Tie) (exponent : Int) : Option Nat :=
  let step := Decimal.tenTo exponent * twoTo (-i.power)
  let scale := twoTo i.power * Decimal.tenTo (-exponent)
  let value := i.value * scale
  let below := value / step
  let lowInside :=
    i.low * scale < below * step ∨ (i.closed = true ∧ i.low * scale = below * step)
  let highInside :=
    (below + 1) * step < i.high * scale ∨ (i.closed = true ∧ (below + 1) * step = i.high * scale)
  let twice := 2 * (value - below * step)
  let belowNearer := twice < step ∨ (twice = step ∧ tie.takesBelow below = true)
  if lowInside ∧ (¬ highInside ∨ belowNearer) then some below
  else if highInside then some (below + 1)
  else none

/-- The decimal with the fewest digits that rounds to a finite positive magnitude, and of those
the nearest. Seventeen digits always suffice. -/
def shortest (tie : Tie) (x : Binary64) : Decimal :=
  let i := x.interval
  let leading := i.leadingExponent
  let hit := (List.range 17).findSome? fun (more : Nat) =>
    (i.onGrid? tie (leading - more)).map fun digits => (⟨digits, leading - more⟩ : Decimal)
  hit.getD ⟨0, 0⟩

end Binary64

end ModelExport
