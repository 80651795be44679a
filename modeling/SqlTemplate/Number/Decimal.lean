import SqlTemplate.Number.Layout
import SqlTemplate.Text.Blank
import SqlTemplate.Text.DecimalDigit

/-!
# Decimal numbers

A finite decimal keeps its coefficient and exponent apart, so `1.50` and `1.5` are different
decimals of one value. A NaN may be signaling and may carry a payload.
-/

namespace SqlTemplate

inductive Decimal
  | finite (negative : Bool) (coefficient : Nat) (exponent : Int)
  | infinity (negative : Bool)
  | nan (negative signaling : Bool) (payload : Nat)
  deriving DecidableEq

namespace Decimal

def isFinite : Decimal → Bool
  | .finite .. => true
  | _ => false

/-- The exact value of a finite decimal. -/
def value? : Decimal → Option Rat
  | .finite negative coefficient exponent =>
    let magnitude := (coefficient : Rat) * (10 : Rat) ^ exponent
    some (if negative then -magnitude else magnitude)
  | _ => none

/-- A decimal is positional while its exponent is not positive and at most six zeros follow the
point; otherwise one digit stands before the point and `E` marks the exponent. -/
def text : Decimal → Text
  | .finite negative coefficient exponent =>
    let digits := Text.ofNat coefficient
    let place := (digits.length : Int) + exponent
    let body : Text :=
      if exponent ≤ 0 ∧ -6 < place then digits.pointed place
      else digits.pointed 1 ++ (CodePoint.ofChar 'E' :: Text.ofIntSigned 1 (place - 1))
    body.signed negative
  | .infinity negative => Text.signed negative "Infinity"
  | .nan negative signaling payload =>
    Text.signed negative
      (Text.ofString (if signaling then "sNaN" else "NaN") ++
        (if payload = 0 then [] else Text.ofNat payload))

/-- The number of digits before the point of a finite decimal, none if it is less than one. -/
def integerPlaces (coefficient : Nat) (exponent : Int) : Nat :=
  if coefficient = 0 then 0 else ((Nat.toDigits 10 coefficient).length + exponent).toNat

/-- The most digits that the integer of a decimal can have, however much memory there is. -/
def conversionDigits : Nat := 2711437152599294

/-- The most digits that the integer of a decimal can have where there is memory for so many. -/
def formableDigits (memory : Nat) : Nat :=
  min memory conversionDigits

/-- The integer part of a finite decimal, unless it has more than `limit` digits. -/
def truncate? (limit : Nat) (negative : Bool) (coefficient : Nat) (exponent : Int) : Option Int :=
  let places := integerPlaces coefficient exponent
  let signed (n : Nat) : Int := if negative then -n else n
  if places = 0 then some 0
  else if limit < places then none
  else if 0 ≤ exponent then some (signed (coefficient * Nat.pow 10 exponent.toNat))
  else some (signed (coefficient / Nat.pow 10 (-exponent).toNat))

end Decimal

end SqlTemplate
