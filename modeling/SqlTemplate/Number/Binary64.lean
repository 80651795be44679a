/-!
# Binary64 numbers

A finite number is an exact rational, a mantissa below `2 ^ 53` times a power of two. Rounding goes
to the nearest number and on a tie to the even mantissa; from `2 ^ 1024 - 2 ^ 970` on the nearest
number is infinity.
-/

namespace SqlTemplate

inductive Binary64
  | nan
  | infinity (negative : Bool)
  | finite (negative : Bool) (mantissa : Nat) (exponent : Int)
  deriving DecidableEq

namespace Binary64

/-- The least mantissa of a normal number. -/
def leastNormal : Nat := Nat.pow 2 52

def zero (negative : Bool) : Binary64 :=
  .finite negative 0 (-1074)

/-- The exact value of a finite number. -/
def value? : Binary64 → Option Rat
  | .finite negative mantissa exponent =>
    let magnitude := (mantissa : Rat) * (2 : Rat) ^ exponent
    some (if negative then -magnitude else magnitude)
  | _ => none

/-- The least exponent, and at least `-1074`, at which a positive `x` needs no more than 53 bits
before the point. -/
def unitExponent (x : Rat) : Int :=
  let guess : Int := (x.num.natAbs.log2 : Int) - (x.den.log2 : Int) - 53
  max (-1074) (if x < (2 : Rat) ^ (guess + 53) then guess else guess + 1)

/-- The nearest integer, on a tie the even one. -/
def roundHalfEven (x : Rat) : Int :=
  let below := x.floor
  let rest := x - below
  if rest < 1 / 2 then below
  else if 1 / 2 < rest then below + 1
  else if below % 2 = 0 then below else below + 1

/-- The number nearest to a magnitude `x ≥ 0`, with the given sign. -/
def ofMagnitude (negative : Bool) (x : Rat) : Binary64 :=
  if x ≤ 0 then zero negative
  else
    let unit := unitExponent x
    let mantissa := (roundHalfEven (x / (2 : Rat) ^ unit)).toNat
    let (mantissa, exponent) :=
      if mantissa = 2 * leastNormal then (leastNormal, unit + 1) else (mantissa, unit)
    if 971 < exponent then .infinity negative else .finite negative mantissa exponent

def ofInt (n : Int) : Binary64 :=
  ofMagnitude (n < 0) (n.natAbs : Rat)

/-- The number nearest to `coefficient · 10 ^ exponent`. A magnitude from `10 ^ 400` on is beyond
every finite number and one below `10 ^ (-400)` rounds to zero, so no large power is formed. -/
def ofScientific (negative : Bool) (coefficient : Nat) (exponent : Int) : Binary64 :=
  let order := ((Nat.toDigits 10 coefficient).length : Int) + exponent
  if coefficient = 0 then zero negative
  else if 400 < order then .infinity negative
  else if order < -400 then zero negative
  else ofMagnitude negative ((coefficient : Rat) * (10 : Rat) ^ exponent)

def isFinite : Binary64 → Bool
  | .finite .. => true
  | _ => false

end Binary64

end SqlTemplate
