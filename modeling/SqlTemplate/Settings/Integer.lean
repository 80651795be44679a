import SqlTemplate.Json.Basic
import SqlTemplate.Text.Blank
import SqlTemplate.Validation

/-!
# Integers of the settings

An integer is given as a JSON integer or truth value, as a float without a fraction, or as a text.
A text may have white space around it, a sign, zeros in front with underscores among them, single
underscores between its digits, and a fraction of zeros.
-/

namespace SqlTemplate.Settings

/-- Drops zeros, and underscores among them, up to the first other digit or a minus sign. Before a
point and at the end, the code point dropped last comes back. -/
def withoutZerosAfter (last : CodePoint) : Text → Option Text
  | [] => some [last]
  | c :: rest =>
    if c = '0' ∨ c = '_' then withoutZerosAfter c rest
    else if c.within 0x31 0x39 ∨ c = '-' then some (c :: rest)
    else if c = '.' then some (last :: c :: rest)
    else none

/-- A text that begins with a digit, without needless zeros in front. -/
def withoutZeros? : Text → Option Text
  | [] => none
  | c :: rest =>
    if c = '0' then withoutZerosAfter c rest
    else if c.within 0x31 0x39 then some (c :: rest)
    else none

/-- The text without a point and the zeros behind it, if there are any and nothing else is. -/
def withoutZeroFraction (t : Text) : Text :=
  let whole := t.takeWhile (· ≠ CodePoint.ofChar '.')
  let fraction := t.drop (whole.length + 1)
  if fraction ≠ [] ∧ fraction.all (· = CodePoint.ofChar '0') then whole else t

def isUnderscore (c : CodePoint) : Bool :=
  c = '_'

/-- The text without underscores, unless one is at an end or next to another. -/
def withoutUnderscores (t : Text) : Text :=
  let doubled := (t.zip (t.drop 1)).any fun (c, d) => isUnderscore c && isUnderscore d
  if t.head?.any isUnderscore || t.getLast?.any isUnderscore || doubled then t
  else t.filter (!isUnderscore ·)

/-- The most digits of a text that is read as an integer, needless ones not counted. -/
def integerDigitLimit : Nat := 4300

/-- The number that plain digits spell, with or without a minus sign. A run of digits that is too
long is refused as such, whatever follows it. -/
def integerOfDigits (t : Text) : Except Invalid Int :=
  let (negative, body) : Bool × Text :=
    match t with
    | [] => (false, [])
    | c :: rest => if c = '-' then (true, rest) else (false, t)
  let digits := body.takeWhile CodePoint.isAsciiDigit
  match digits with
  | [] => .error .unreadableInteger
  | first :: more =>
    if first = '0' ∧ more ≠ [] then .error .unreadableInteger
    else if integerDigitLimit < digits.length then .error .oversizedInteger
    else if digits.length < body.length then .error .unreadableInteger
    else
      let n : Nat := digits.foldl (fun n c => 10 * n + (c.val - 0x30)) 0
      .ok (if negative then -n else n)

/-- The digits of a text without its white space, plus sign and needless parts. -/
def plainDigits? (t : Text) : Option Text :=
  let plain (t : Text) := (withoutZeros? t).map fun t => withoutUnderscores (withoutZeroFraction t)
  match t.trim CodePoint.isWhiteSpace with
  | [] => none
  | c :: rest =>
    if c = '+' then plain rest
    else if c = '-' then (plain rest).map (c :: ·)
    else plain (c :: rest)

def integerOfText (t : Text) : Except Invalid Int :=
  match plainDigits? t with
  | none => .error .unreadableInteger
  | some digits => integerOfDigits digits

/-- A float is taken if it is less than `2 ^ 63` in magnitude. -/
def floatLimit : Rat := 0x8000000000000000

def integerOfFloat (x : Binary64) : Except Invalid Int :=
  match x.value? with
  | none => .error .notFinite
  | some value =>
    if value.den ≠ 1 then .error .fractional
    else if -floatLimit < value ∧ value < floatLimit then .ok value.num
    else .error .oversizedInteger

def checkInteger : Json → Except Invalid Int
  | .bool b => .ok b.toInt
  | .int n => .ok n
  | .float x => integerOfFloat x
  | .string t =>
    if t.any CodePoint.isSurrogate then .error .notUnicode else integerOfText t
  | _ => .error .notAnInteger

end SqlTemplate.Settings
