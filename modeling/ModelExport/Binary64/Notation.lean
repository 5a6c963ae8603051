/-
# ModelExport.Binary64.Notation — doubles as decimal text

The text of a finite double has the fewest digits that read back. Within a range
of magnitudes it is positional, with at least one digit on either side of the
point; outside it has one digit before the point, no point where no digit
follows, and an exponent. Zero keeps its sign.
-/
import ModelExport.Binary64.Shortest

set_option autoImplicit false

namespace ModelExport

/-- What a decimal notation decides. -/
structure DecimalNotation where
  /-- Which of two equally near decimals is written. -/
  tie : Tie
  /-- The least exponent of the leading digit that is written positionally. -/
  leastPositional : Int
  /-- The greatest exponent of the leading digit that is written positionally. -/
  greatestPositional : Int
  /-- Whether an exponent that is not negative has a sign. -/
  plusSign : Bool

namespace DecimalNotation

/-- Numbers in generated programs: a tie goes up, and they are positional from `1e-4` up to but
not including `1e16`. -/
def source : DecimalNotation := ⟨.upward, -4, 15, false⟩

/-- Numbers in messages: a tie goes to the even digit, and they are positional from `1e-5` up to
but not including `1e16`. -/
def message : DecimalNotation := ⟨.toEven, -5, 15, true⟩

def zeros (count : Nat) : List Char := List.replicate count '0'

/-- Digits with the point after `whole` of them, filled with zeros on either side. -/
def positional (digits : List Char) (leading : Int) : List Char :=
  if leading < 0 then
    ['0', '.'] ++ zeros (-leading - 1).toNat ++ digits
  else
    let whole := leading.toNat + 1
    let fraction := digits.drop whole
    digits.take whole ++ zeros (whole - digits.length) ++
      '.' :: if fraction.isEmpty then ['0'] else fraction

/-- The exponent with its sign. -/
def exponentText (form : DecimalNotation) (exponent : Int) : List Char :=
  (if exponent < 0 then ['-'] else if form.plusSign then ['+'] else []) ++
    Nat.toDigits 10 exponent.natAbs

/-- One digit, the others after the point if there are any, and the exponent. -/
def scientific (form : DecimalNotation) (digits : List Char) (leading : Int) : List Char :=
  let fraction := digits.drop 1
  digits.take 1 ++ (if fraction.isEmpty then [] else '.' :: fraction) ++
    'e' :: form.exponentText leading

/-- The digits of a decimal without the zeros at their end. -/
def significantDigits (d : Decimal) : List Char :=
  ((Nat.toDigits 10 d.digits).reverse.dropWhile (· == '0')).reverse

/-- The text of a finite double. -/
def render (form : DecimalNotation) (x : Binary64) : List Char :=
  (if x.isNegative then ['-'] else []) ++
    if x.isZero then ['0', '.', '0']
    else
      let d := x.shortest form.tie
      let leading := d.leadingExponent
      if form.leastPositional ≤ leading ∧ leading ≤ form.greatestPositional then
        positional (significantDigits d) leading
      else form.scientific (significantDigits d) leading

end DecimalNotation

end ModelExport
