import SqlTemplate.Number.Shortest
import SqlTemplate.Text.CodePoint

/-!
# Layout of decimal numbers

Digits are written positionally or with a power of ten. Where each form begins, what marks the
exponent and whether a whole number keeps its `.0` are the choices of the two kinds of number.
-/

namespace SqlTemplate

namespace Text

/-- `digits` with a point behind the first `place` of them, filled up with zeros on either side
where the point lies outside. No point is written behind the last digit. -/
def pointed (digits : Text) (place : Int) : Text :=
  if place ≤ 0 then
    ofString "0." ++ zeros (-place).toNat ++ digits
  else if (digits.length : Int) ≤ place then
    digits ++ zeros (place.toNat - digits.length)
  else
    digits.take place.toNat ++ (CodePoint.ofChar '.' :: digits.drop place.toNat)

def signed (negative : Bool) (t : Text) : Text :=
  if negative then CodePoint.ofChar '-' :: t else t

/-- A numeral with its sign, also when that is a plus. -/
def ofIntSigned (width : Nat) (n : Int) : Text :=
  CodePoint.ofChar (if n < 0 then '-' else '+') :: ofNatPadded width n.natAbs

end Text

namespace Binary64

/-- A float is positional from `10 ^ (-4)` to below `10 ^ 16`, with `.0` behind a whole number;
beyond that its exponent has a sign and at least two digits. -/
def text : Binary64 → Text
  | .nan => "nan"
  | .infinity negative => Text.signed negative "inf"
  | .finite negative 0 _ => Text.signed negative "0.0"
  | .finite negative mantissa exponent =>
    let short := shortest mantissa exponent
    let digits := Text.ofNat short.digits
    let place := (digits.length : Int) + short.exponent
    let body : Text :=
      if place < -3 ∨ 16 < place then
        digits.pointed 1 ++ (CodePoint.ofChar 'e' :: Text.ofIntSigned 2 (place - 1))
      else if (digits.length : Int) ≤ place then digits.pointed place ++ Text.ofString ".0"
      else digits.pointed place
    body.signed negative

end Binary64

end SqlTemplate
