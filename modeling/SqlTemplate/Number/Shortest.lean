import SqlTemplate.Number.Binary64

/-!
# The fewest digits that read back

Every binary64 number owns the interval of reals that round to it. Its shortest decimal is the one
with the fewest digits inside that interval, of several the nearest to the number, and on a tie the
one whose last digit is even.
-/

namespace SqlTemplate

/-- The number `digits · 10 ^ exponent`. -/
structure ShortDecimal where
  digits : Nat
  exponent : Int
  deriving DecidableEq

namespace ShortDecimal

def value (d : ShortDecimal) : Rat :=
  (d.digits : Rat) * (10 : Rat) ^ d.exponent

/-- The same number without zeros at the end of its digits; `fuel` bounds their number. -/
def trimmed : Nat → ShortDecimal → ShortDecimal
  | 0, d => d
  | fuel + 1, d =>
    if d.digits % 10 = 0 ∧ d.digits ≠ 0 then trimmed fuel ⟨d.digits / 10, d.exponent + 1⟩ else d

end ShortDecimal

namespace Binary64

/-- Whether `y` rounds to the positive number `mantissa · 2 ^ exponent`. The gap below a power of
two is half as wide as the one above it. -/
def owns (mantissa : Nat) (exponent : Int) (y : Rat) : Bool :=
  let unit := (2 : Rat) ^ exponent
  let x := (mantissa : Rat) * unit
  let below := if mantissa = leastNormal ∧ -1074 < exponent then unit / 4 else unit / 2
  let low := x - below
  let high := x + unit / 2
  if mantissa % 2 = 0 then decide (low ≤ y) && decide (y ≤ high)
  else decide (low < y) && decide (y < high)

/-- The exponent `k` with `10 ^ k ≤ x < 10 ^ (k + 1)`, for `x > 0`. The two logarithms give a guess
that is at most two off. -/
def decimalOrder (x : Rat) : Int :=
  let bits : Int := (x.num.natAbs.log2 : Int) - (x.den.log2 : Int)
  let guess := Int.fdiv (bits * 30103) 100000
  let fits := fun k : Int => decide ((10 : Rat) ^ k ≤ x)
  ([guess + 2, guess + 1, guess, guess - 1].find? fits).getD (guess - 2)

/-- The neighbour of the number on the grid of multiples of `10 ^ grid` that is in its interval, the
nearer one where both are. -/
def onGrid? (mantissa : Nat) (exponent grid : Int) : Option ShortDecimal :=
  let x := (mantissa : Rat) * (2 : Rat) ^ exponent
  let below : ShortDecimal := ⟨(x / (10 : Rat) ^ grid).floor.toNat, grid⟩
  let above : ShortDecimal := ⟨below.digits + 1, grid⟩
  match owns mantissa exponent below.value, owns mantissa exponent above.value with
  | false, false => none
  | true, false => some below
  | false, true => some above
  | true, true =>
    let down := x - below.value
    let up := above.value - x
    if down < up then some below
    else if up < down then some above
    else if below.digits % 2 = 0 then some below else some above

/-- The shortest decimal of a positive number. Seventeen digits always suffice. -/
def shortest (mantissa : Nat) (exponent : Int) : ShortDecimal :=
  let order := decimalOrder ((mantissa : Rat) * (2 : Rat) ^ exponent)
  let candidate := (List.range 17).findSome? fun (places : Nat) =>
    onGrid? mantissa exponent (order - places)
  (candidate.getD ⟨0, 0⟩).trimmed 17

end Binary64

end SqlTemplate
