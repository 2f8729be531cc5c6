/-!
# Binary numbers of 64 bits

The finite non-negative numbers that fit in 64 bits of binary floating point, and the rounding of
exact quotients to them: to the nearest one, a tie to the one with an even mantissa.  Everything is
done on whole numbers, so each value can be computed by evaluation alone.
-/

namespace SearchBar.Decimal

/-- The number `mantissa * 2 ^ exponent`.  The mantissa has 53 binary digits, or the exponent is
the least one, `-1074`. -/
structure Binary64 where
  mantissa : Nat
  exponent : Int
deriving DecidableEq, Repr, Inhabited

/-- The whole number nearest to a quotient; a tie goes to the even one. -/
def roundQuotient (num den : Nat) : Nat :=
  let whole := num / den
  let twice := 2 * (num % den)
  if twice < den then whole
  else if den < twice then whole + 1
  else if whole % 2 = 0 then whole else whole + 1

namespace Binary64

/-- The least number with 53 binary digits: two to the power 52. -/
def leastMantissa : Nat := 0x10000000000000

/-- The least number with 54 binary digits: two to the power 53. -/
def mantissaEnd : Nat := 0x20000000000000

/-- Zero. -/
def zero : Binary64 := ⟨0, -1074⟩

/-- Numerator and denominator of a number. -/
def ratio (x : Binary64) : Nat × Nat :=
  (x.mantissa * Nat.pow 2 x.exponent.toNat, Nat.pow 2 (-x.exponent).toNat)

/-- The number nearest to a quotient, if it is not too large for 64 bits. -/
def ofRatio? (num den : Nat) : Option Binary64 :=
  if num = 0 then some zero
  else
    let low : Int := max (-1074) ((num.log2 : Int) - (den.log2 : Int) - 53)
    let above := num * Nat.pow 2 (-low).toNat / (den * Nat.pow 2 low.toNat)
    let exponent := if above < mantissaEnd then low else low + 1
    let mantissa :=
      roundQuotient (num * Nat.pow 2 (-exponent).toNat) (den * Nat.pow 2 exponent.toNat)
    let rounded : Binary64 :=
      if mantissa = mantissaEnd then ⟨leastMantissa, exponent + 1⟩ else ⟨mantissa, exponent⟩
    if 971 < rounded.exponent then none else some rounded

/-- The number nearest to a whole number. -/
def ofNat? (n : Nat) : Option Binary64 := ofRatio? n 1

/-- The number nearest to a power of ten. -/
def powerOfTen? (n : Nat) : Option Binary64 := ofNat? (Nat.pow 10 n)

/-- The rounded product. -/
def mul? (x y : Binary64) : Option Binary64 :=
  ofRatio? (x.ratio.1 * y.ratio.1) (x.ratio.2 * y.ratio.2)

/-- The rounded quotient by a number that is not zero. -/
def div? (x y : Binary64) : Option Binary64 :=
  ofRatio? (x.ratio.1 * y.ratio.2) (x.ratio.2 * y.ratio.1)

end Binary64

end SearchBar.Decimal
