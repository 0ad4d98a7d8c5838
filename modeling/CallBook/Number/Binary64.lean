/-!
# Binary floating-point numbers of 64 bits

A finite number is a sign, a significand and a power of two.  Rounding takes an exact ratio
to the nearest number, a tie to the even significand, and answers nothing where the nearest
number would be beyond the largest.  All arithmetic is exact on natural numbers until that
one rounding.
-/

namespace CallBook

/-- The number `± significand · 2 ^ exponent`, finite.  Rounding produces the form with the
longest significand below `2 ^ 53` whose exponent is not below `-1074`, so equal numbers of
one sign are equal as values. -/
structure Binary64 where
  negative : Bool
  significand : Nat
  exponent : Int
deriving Repr, DecidableEq

namespace Binary64

/-- The exponent of the smallest positive number. -/
def leastExponent : Int := -1074

/-- The exponent of the largest numbers. -/
def greatestExponent : Int := 971

/-- Zero, which has a sign. -/
def zero (negative : Bool) : Binary64 := ⟨negative, 0, leastExponent⟩

def isZero (x : Binary64) : Bool := x.significand == 0

def neg (x : Binary64) : Binary64 := { x with negative := !x.negative }

/-- `numerator / denominator` to the nearest natural number, a tie to the even one. -/
def roundHalfEven (numerator denominator : Nat) : Nat :=
  let quotient := numerator / denominator
  let twice := 2 * (numerator % denominator)
  if twice > denominator ∨ (twice = denominator ∧ quotient % 2 = 1) then quotient + 1
  else quotient

/-- `2 ^ e` as a ratio of natural numbers. -/
def powerOfTwo (e : Int) : Nat × Nat := (Nat.pow 2 e.toNat, Nat.pow 2 (-e).toNat)

/-- The greatest `e` with `2 ^ e ≤ numerator / denominator`, for positive numbers. -/
def floorLog2 (numerator denominator : Nat) : Int :=
  let e : Int := numerator.log2 - denominator.log2
  let (up, down) := powerOfTwo e
  if denominator * up ≤ numerator * down then e else e - 1

/-- The nearest number to `± numerator / denominator`, if it is finite. -/
def ofRatio? (negative : Bool) (numerator denominator : Nat) : Option Binary64 :=
  if numerator = 0 then some (zero negative)
  else
    let e := max (floorLog2 numerator denominator - 52) leastExponent
    let (up, down) := powerOfTwo e
    let m := roundHalfEven (numerator * down) (denominator * up)
    let (m, e) := if m = Nat.pow 2 53 then (Nat.pow 2 52, e + 1) else (m, e)
    if e > greatestExponent then none else some ⟨negative, m, e⟩

/-- The absolute value as an exact ratio. -/
def ratio (x : Binary64) : Nat × Nat :=
  let (up, down) := powerOfTwo x.exponent
  (x.significand * up, down)

/-- The nearest number to a product, if it is finite. -/
def mul? (x y : Binary64) : Option Binary64 :=
  ofRatio? (x.negative != y.negative) (x.ratio.1 * y.ratio.1) (x.ratio.2 * y.ratio.2)

/-- The nearest number to a quotient by a number that is not zero, if it is finite. -/
def div? (x y : Binary64) : Option Binary64 :=
  ofRatio? (x.negative != y.negative) (x.ratio.1 * y.ratio.2) (x.ratio.2 * y.ratio.1)

/-- The nearest number to `± digits · 10 ^ e`, if it is finite.  Powers beyond the range of
all numbers are decided without computing them. -/
def ofDecimal? (negative : Bool) (digits : Nat) (e : Int) : Option Binary64 :=
  if digits = 0 then some (zero negative)
  else if e > 400 then none
  else if e < -(400 + digits.log2 : Int) then some (zero negative)
  else ofRatio? negative (digits * Nat.pow 10 e.toNat) (Nat.pow 10 (-e).toNat)

end Binary64

end CallBook
