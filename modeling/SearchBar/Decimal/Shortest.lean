import SearchBar.Decimal.Binary64

/-!
# Shortest decimals

The decimal text of a binary number has the fewest digits that still round to it, and among those
the digits nearest to it.  A number is tested against the interval of all reals that round to it by
comparing whole numbers, on one decimal grid after the other.
-/

namespace SearchBar.Decimal

/-- The number `digits * 10 ^ exponent`. -/
structure Scaled where
  digits : Nat
  exponent : Int
deriving DecidableEq, Repr, Inhabited

/-- Compare `a * 10 ^ i` with `b * 2 ^ j`. -/
def compareScaled (a : Nat) (i : Int) (b : Nat) (j : Int) : Ordering :=
  compare (a * Nat.pow 10 i.toNat * Nat.pow 2 (-j).toNat)
    (b * Nat.pow 2 j.toNat * Nat.pow 10 (-i).toNat)

/-- Whether a decimal rounds to a binary number.  The interval reaches halfway to both neighbours,
with its ends exactly when the mantissa is even; the neighbour below a power of two is half as far
away as the one above. -/
def Binary64.readsBack (x : Binary64) (d : Scaled) : Bool :=
  let narrow := x.mantissa = leastMantissa ∧ -1074 < x.exponent
  let low := if narrow then 4 * x.mantissa - 1 else 4 * x.mantissa - 2
  let atLow := compareScaled d.digits d.exponent low (x.exponent - 2)
  let atHigh := compareScaled d.digits d.exponent (4 * x.mantissa + 2) (x.exponent - 2)
  let even := x.mantissa % 2 == 0
  (atLow == .gt || (even && atLow == .eq)) && (atHigh == .lt || (even && atHigh == .eq))

/-- The exponent of the leading decimal digit of a number that is not zero. -/
def Binary64.leadingExponent (x : Binary64) : Int :=
  let (num, den) := x.ratio
  if den ≤ num then ((Nat.toDigits 10 (num / den)).length : Int) - 1
  else
    let places := (Nat.toDigits 10 (den / num)).length
    if den ≤ num * Nat.pow 10 (places - 1) then -((places : Int) - 1) else -(places : Int)

/-- The neighbour of a number on a decimal grid that rounds to it; of two, the nearer one, and the
even one of two that are equally near. -/
def Binary64.onGrid? (x : Binary64) (exponent : Int) : Option Scaled :=
  let num := x.ratio.1 * Nat.pow 10 (-exponent).toNat
  let den := x.ratio.2 * Nat.pow 10 exponent.toNat
  let below : Scaled := ⟨num / den, exponent⟩
  let above : Scaled := ⟨num / den + 1, exponent⟩
  match x.readsBack below, x.readsBack above with
  | true, true => some ⟨roundQuotient num den, exponent⟩
  | true, false => some below
  | false, true => some above
  | false, false => none

/-- Move the trailing zeros of the digits to the exponent.  A number has fewer trailing zeros than
binary digits, so `fuel` need not be larger than their count. -/
def Scaled.stripZeros (d : Scaled) : Nat → Scaled
  | 0 => d
  | fuel + 1 =>
    if d.digits ≠ 0 ∧ d.digits % 10 = 0 then stripZeros ⟨d.digits / 10, d.exponent + 1⟩ fuel else d

/-- The shortest decimal that rounds to a number that is not zero.  Seventeen digits are always
enough; should they not be, the exact value is taken. -/
def Binary64.shortest (x : Binary64) : Scaled :=
  let lead := x.leadingExponent
  let found := (List.range 17).findSome? fun n : Nat => x.onGrid? (lead - (n : Int))
  let exact : Scaled :=
    ⟨x.ratio.1 * Nat.pow 5 (-x.exponent).toNat, -((-x.exponent).toNat : Int)⟩
  let d := found.getD exact
  d.stripZeros (d.digits.log2 + 1)

/-! ## Layout -/

/-- The text of a decimal: positional while the point stands within sixteen digits, or after at
most four zeros, and with at least one digit behind it; otherwise with the point after the first
digit and an exponent, which always has a sign. -/
def Scaled.layout (d : Scaled) : List Char :=
  let ds := Nat.toDigits 10 d.digits
  let count : Int := ds.length
  let point := count + d.exponent
  if 0 ≤ d.exponent ∧ point ≤ 16 then ds ++ List.replicate d.exponent.toNat '0' ++ ['.', '0']
  else if 0 < point ∧ point ≤ 16 then ds.take point.toNat ++ '.' :: ds.drop point.toNat
  else if -5 < point ∧ point ≤ 0 then '0' :: '.' :: (List.replicate (-point).toNat '0' ++ ds)
  else
    let fraction := ds.drop 1
    let sign := if point < 1 then '-' else '+'
    ds.take 1 ++ (if fraction.isEmpty then [] else '.' :: fraction) ++
      'e' :: sign :: Nat.toDigits 10 (point - 1).natAbs

/-- The text of a number: its shortest decimal, with `0.0` for zero. -/
def Binary64.text (x : Binary64) (negative : Bool) : String :=
  let body := if x.mantissa = 0 then ['0', '.', '0'] else x.shortest.layout
  String.ofList (if negative then '-' :: body else body)

end SearchBar.Decimal
