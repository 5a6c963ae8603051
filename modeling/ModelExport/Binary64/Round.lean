/-
# ModelExport.Binary64.Round — the double nearest to an exact quotient

Every operation here is exact arithmetic on natural numbers followed by one
rounding: to the nearest double, of two equally near ones to the one with the
even significand, and to infinity from half a unit above the greatest finite
magnitude on.
-/
import ModelExport.Binary64

set_option autoImplicit false

namespace ModelExport.Binary64

/-- `2 ^ exponent` where the exponent is positive, and one otherwise. A scaled quotient has this
factor above and the one of the opposite exponent below. -/
def twoTo (exponent : Int) : Nat := Nat.pow 2 exponent.toNat

/-- The quotient rounded to a whole number, a half to the even neighbour. -/
def roundHalfEven (num den : Nat) : Nat :=
  let floor := num / den
  let twice := 2 * (num % den)
  if den < twice ∨ (twice = den ∧ floor % 2 = 1) then floor + 1 else floor

/-- The greatest exponent whose power of two does not exceed the quotient of positive numbers. -/
def leadingPower (num den : Nat) : Int :=
  let guess : Int := (num.log2 : Int) - den.log2
  if den * twoTo guess ≤ num * twoTo (-guess) then guess else guess - 1

/-- The bits of the magnitude nearest to `num / den`. The bits of consecutive magnitudes are
consecutive numbers, so a significand that rounds up to the next power of two needs no care. -/
def nearestMagnitude (num den : Nat) : Nat :=
  if num = 0 then 0
  else
    let unit := max (leadingPower num den - 52) (-1074)
    let significand := roundHalfEven (num * twoTo (-unit)) (den * twoTo unit)
    min (significand + (unit + 1074).toNat * leadingOne) infinityBits

/-- The double nearest to a natural number. -/
def ofNat (n : Nat) : Binary64 := ofMagnitude false (nearestMagnitude n 1)

/-- The double nearest to an integer. -/
def ofInt (n : Int) : Binary64 := ofMagnitude (n < 0) (nearestMagnitude n.natAbs 1)

/-- The product of two finite magnitudes, rounded once. -/
def mul (x y : Binary64) : Binary64 :=
  let power := x.power + y.power
  ofMagnitude (x.isNegative != y.isNegative)
    (nearestMagnitude (x.significand * y.significand * twoTo power) (twoTo (-power)))

/-- The quotient of two finite magnitudes, the second not zero, rounded once. -/
def div (x y : Binary64) : Binary64 :=
  let power := x.power - y.power
  ofMagnitude (x.isNegative != y.isNegative)
    (nearestMagnitude (x.significand * twoTo power) (y.significand * twoTo (-power)))

/-- The double nearest to a power of ten. -/
def tenTo (exponent : Nat) : Binary64 := ofNat (Nat.pow 10 exponent)

end ModelExport.Binary64
