import CallBook.Number.Binary64
/-!
# The shortest decimal of a number

Among the decimals that round to a given binary number, the ones with the fewest digits are
found, and of these the nearest.  A decimal of `n` digits that rounds to the number exists
exactly if one of the number's two neighbours on the grid of such decimals does.
-/

namespace CallBook

/-- The decimal `digits · 10 ^ exponent`. -/
structure Decimal where
  digits : Nat
  exponent : Int
deriving Repr, DecidableEq

namespace Binary64

/-- The greatest `e` with `10 ^ e ≤ numerator / denominator`, for positive numbers. -/
def floorLog10 (numerator denominator : Nat) : Int :=
  let guess := Int.fdiv (floorLog2 numerator denominator * 30103) 100000
  let reaches (e : Int) : Bool :=
    decide (denominator * Nat.pow 10 e.toNat ≤ numerator * Nat.pow 10 (-e).toNat)
  if reaches (guess + 1) then guess + 1 else if reaches guess then guess else guess - 1

/-- The ends of the interval of reals that round to a positive number, and the number itself,
in units of `2 ^ (exponent - 2)`. -/
def roundingInterval (x : Binary64) : Nat × Nat × Nat :=
  let centre := 4 * x.significand
  let gap := if x.significand = Nat.pow 2 52 ∧ x.exponent > leastExponent then 1 else 2
  (centre - gap, centre, centre + 2)

/-- A decimal on the grid `10 ^ k` that rounds to the positive number `x`: the nearer of the
two grid neighbours that do, the even one in a tie. -/
def onGrid? (x : Binary64) (k : Int) : Option Nat :=
  let (low, centre, high) := x.roundingInterval
  let e := x.exponent - 2
  let up := Nat.pow 2 e.toNat * Nat.pow 10 (-k).toNat
  let down := Nat.pow 2 (-e).toNat * Nat.pow 10 k.toNat
  let even := x.significand % 2 == 0
  let rounds (d : Nat) : Bool :=
    if even then decide (low * up ≤ d * down ∧ d * down ≤ high * up)
    else decide (low * up < d * down ∧ d * down < high * up)
  let below := centre * up / down
  let above := below + 1
  match rounds below, rounds above with
  | true, false => some below
  | false, true => some above
  | false, false => none
  | true, true =>
    let twice := 2 * (centre * up)
    let middle := (below + above) * down
    if twice < middle then some below
    else if middle < twice then some above
    else if below % 2 = 0 then some below else some above

/-- A decimal without zeros at the end of its digits. -/
def trimZeros : Nat → Nat → Int → Decimal
  | 0, d, k => ⟨d, k⟩
  | fuel + 1, d, k => if d % 10 = 0 ∧ d ≠ 0 then trimZeros fuel (d / 10) (k + 1) else ⟨d, k⟩

/-- The shortest decimal that rounds to the absolute value of a number. -/
def shortest (x : Binary64) : Decimal :=
  if x.significand = 0 then ⟨0, 0⟩
  else
    let (numerator, denominator) := x.ratio
    let e := floorLog10 numerator denominator
    let hit := (List.range 17).findSome? fun n =>
      let k := e - Int.ofNat n
      (x.onGrid? k).map fun d => trimZeros 20 d k
    hit.getD ⟨0, 0⟩

end Binary64

end CallBook
