/-
# ModelExport.Binary64.Scaled — a significand times a power of ten

The double of a decimal literal is computed in two roundings: the significand is
rounded to a double, and the product with the double of the power of ten, or the
quotient by it, is rounded again. The result is therefore not always the double
nearest to the literal. Exponents under -308 are applied in steps of 308.
-/
import ModelExport.Binary64.Round

set_option autoImplicit false

namespace ModelExport.Binary64

/-- The greatest power of ten that is a finite double. -/
def greatestTen : Nat := 308

/-- A magnitude times a power of ten; nothing if that is no finite double. Zero stays zero. -/
def scaleByTen? (x : Binary64) (exponent : Int) : Option Binary64 :=
  if x.isZero then some x
  else if 0 ≤ exponent then
    if exponent ≤ greatestTen then
      let product := x.mul (tenTo exponent.toNat)
      if product.isFinite then some product else none
    else none
  else if -greatestTen ≤ exponent then some (x.div (tenTo (-exponent).toNat))
  else scaleByTen? (x.div (tenTo greatestTen)) (exponent + greatestTen)
termination_by (-exponent).toNat
decreasing_by simp only [greatestTen] at *; omega

end ModelExport.Binary64
