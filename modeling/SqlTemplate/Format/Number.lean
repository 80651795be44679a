import SqlTemplate.Draft
import SqlTemplate.Number.Numeral
import SqlTemplate.Value.Basic

/-!
# Number literals

`?d` writes an integer, a fraction cut off toward zero, and `?f` a float. Booleans count as 0 and 1,
a text as the number it begins with, and null is written as `NULL`. A short decimal can stand for an
integer of any length, so that `?d` depends on the memory there is.
-/

namespace SqlTemplate.Format

inductive Quantity
  | integer (n : Int)
  | float (x : Binary64)
  | decimal (d : Decimal)

def Quantity.ofReading : Reading → Quantity
  | .integer n => .integer n
  | .float x => .float x

/-- The number that a value stands for. -/
def quantity? : Value → Except Mismatch Quantity
  | .bool b => .ok (.integer b.toInt)
  | .int n => .ok (.integer n)
  | .float x => .ok (.float x)
  | .decimal d => .ok (.decimal d)
  | .text t => .ok (.ofReading (.ofText t))
  | v => .error (.notANumber v.typeName)

def integerBound : Nat := Nat.pow 10 integerDigits

/-- The numeral of an integer, unless it is too long. -/
def integerText (n : Int) : Except Mismatch Text :=
  if n.natAbs < integerBound then .ok (Text.ofInt n) else .error .integerTooLarge

def nonFiniteFloat (x : Binary64) : Mismatch :=
  .nonFinite x.text

def nonFiniteDecimal (d : Decimal) : Mismatch :=
  .nonFinite (Text.ofString "Decimal(" ++ d.text.quoted ++ Text.ofString ")")

/-- The integer part of a number, toward zero. A decimal ends in a fault if its integer part has
more digits than there is `memory` for, and is refused if it only has more than a numeral. -/
def truncated (memory : Nat) : Quantity → Except Failure Int
  | .integer n => .ok n
  | .float x =>
    match x.value? with
    | some value => .ok (Int.tdiv value.num value.den)
    | none => .error (.query (.typeMismatch .integer (nonFiniteFloat x)))
  | .decimal (.finite negative coefficient exponent) =>
    if Decimal.formableDigits memory < Decimal.integerPlaces coefficient exponent then
      .error (.fault .outOfMemory)
    else
      match Decimal.truncate? integerDigits negative coefficient exponent with
      | some n => .ok n
      | none => .error (.query (.typeMismatch .integer .integerTooLarge))
  | .decimal d => .error (.query (.typeMismatch .integer (nonFiniteDecimal d)))

/-- The float nearest to a number. An integer has to stay below infinity; a decimal may reach it,
and a signaling NaN has no float. -/
def nearestFloat : Quantity → Except Failure Binary64
  | .integer n =>
    let x := Binary64.ofInt n
    if x.isFinite then .ok x
    else .error (.query (.typeMismatch .float (.tooLargeForFloat (Value.int n).typeName)))
  | .float x => .ok x
  | .decimal (.finite negative coefficient exponent) =>
    .ok (.ofScientific negative coefficient exponent)
  | .decimal (.infinity negative) => .ok (.infinity negative)
  | .decimal (.nan _ false _) => .ok .nan
  | .decimal (.nan _ true _) => .error (.fault .signalingNaN)

/-- The text of a float, unless it is infinite or none. -/
def finiteText (x : Binary64) : Except Mismatch Text :=
  if x.isFinite then .ok x.text else .error (nonFiniteFloat x)

def nullText : Text := "NULL"

def ofTextOrMismatch (token : Token) : Except Mismatch Text → Draft
  | .ok text => .sql text
  | .error reason => .mismatch token reason

/-- The literal of a number, which is converted before it is written. -/
def number {α : Type} (token : Token) (convert : Quantity → Except Failure α)
    (write : α → Except Mismatch Text) : Value → Draft
  | .null => .sql nullText
  | v =>
    match quantity? v with
    | .error reason => .mismatch token reason
    | .ok quantity =>
      match convert quantity with
      | .error failure => .fail failure
      | .ok a => ofTextOrMismatch token (write a)

section
variable {α : Type} {token : Token} {convert : Quantity → Except Failure α}
  {write : α → Except Mismatch Text} {v : Value} {quantity : Quantity}

theorem number_of_unread (filled : v ≠ .null) {reason : Mismatch}
    (unread : quantity? v = .error reason) :
    number token convert write v = .mismatch token reason := by
  simp only [number.eq_2 token convert write v filled, unread]

theorem number_of_converted (filled : v ≠ .null) (read : quantity? v = .ok quantity) {a : α}
    (converted : convert quantity = .ok a) :
    number token convert write v = ofTextOrMismatch token (write a) := by
  simp only [number.eq_2 token convert write v filled, read, converted]

theorem number_of_failed (filled : v ≠ .null) (read : quantity? v = .ok quantity)
    {failure : Failure} (failed : convert quantity = .error failure) :
    number token convert write v = .fail failure := by
  simp only [number.eq_2 token convert write v filled, read, failed]

/-- What is written depends on the number that a value stands for. -/
theorem number_congr {w : Value} (filled : v ≠ .null) (filled' : w ≠ .null)
    (same : quantity? v = quantity? w) :
    number token convert write v = number token convert write w := by
  rw [number.eq_2 token convert write v filled, number.eq_2 token convert write w filled', same]

end

def integerWithin (memory : Nat) : Value → Draft :=
  number .integer (truncated memory) integerText

/-- The literal of an integer, with memory for all that can be formed. -/
def integer : Value → Draft :=
  integerWithin Decimal.conversionDigits

def float : Value → Draft :=
  number .float nearestFloat finiteText

end SqlTemplate.Format
