/-
# ModelExport.Binary64 — double-precision numbers by their bits

A double is its 64 bits: a sign, eleven bits of exponent, 52 bits of fraction.
Two doubles are equal when their bits are, so the two zeros differ and a NaN
equals itself. A finite double is, up to its sign, `significand · 2 ^ power`.
-/

set_option autoImplicit false

namespace ModelExport

/-- A double-precision number, as its bits. -/
structure Binary64 where
  bits : UInt64
deriving DecidableEq

namespace Binary64

/-- `2 ^ 52`: the leading one of a normal significand, and the unit of the exponent bits. -/
def leadingOne : Nat := 0x10000000000000

/-- `2 ^ 63`: the bit of the sign, above all magnitudes. -/
def signBit : Nat := 0x8000000000000000

/-- The bits of positive infinity: the least magnitude that is not finite. -/
def infinityBits : Nat := 2047 * leadingOne

/-- The bits without the sign. They grow with the magnitude. -/
def magnitudeBits (x : Binary64) : Nat := x.bits.toNat % signBit

/-- Whether the sign bit is set. -/
def isNegative (x : Binary64) : Bool := signBit ≤ x.bits.toNat

/-- The number with the given sign and the given bits for its magnitude. -/
def ofMagnitude (negative : Bool) (magnitude : Nat) : Binary64 :=
  ⟨.ofNat ((if negative then signBit else 0) + magnitude % signBit)⟩

/-- Positive zero. -/
def zero : Binary64 := ⟨0⟩

instance : Inhabited Binary64 := ⟨zero⟩

/-- The number with the other sign. -/
def negate (x : Binary64) : Binary64 := ofMagnitude (!x.isNegative) x.magnitudeBits

/-- Neither infinite nor NaN. -/
def isFinite (x : Binary64) : Bool := x.magnitudeBits < infinityBits

def isNaN (x : Binary64) : Bool := infinityBits < x.magnitudeBits

def isZero (x : Binary64) : Bool := x.magnitudeBits == 0

/-- The exponent bits; zero for zeros and subnormal numbers. -/
def biased (x : Binary64) : Nat := x.magnitudeBits / leadingOne

/-- The whole-number factor of a finite magnitude. Normal numbers have an implicit leading one. -/
def significand (x : Binary64) : Nat :=
  x.magnitudeBits % leadingOne + if x.biased = 0 then 0 else leadingOne

/-- The power of two that the significand of a finite magnitude counts. -/
def power (x : Binary64) : Int := (max x.biased 1 : Nat) - 1075

end Binary64

end ModelExport
