import SqlTemplate.Number.Decimal

/-!
# Numerals

A numeral is an optional sign, digits with an optional point and fraction or a point with a
fraction, and an optional exponent. Digits may be of any decimal digit system. A text is read by its
longest numeral, after white space.
-/

namespace SqlTemplate

/-- Integers are written and read with at most this many digits. -/
def integerDigits : Nat := 4300

inductive Sign
  | absent
  | plus
  | minus
  deriving DecidableEq

namespace Sign

def text : Sign → Text
  | .absent => []
  | .plus => "+"
  | .minus => "-"

def read : Text → Sign × Text
  | [] => (.absent, [])
  | c :: rest =>
    if c = '+' then (.plus, rest) else if c = '-' then (.minus, rest) else (.absent, c :: rest)

theorem text_read (t : Text) : (read t).1.text ++ (read t).2 = t := by
  cases t with
  | nil => rfl
  | cons c rest =>
    by_cases plus : c = '+'
    · simp [read, plus]; rfl
    · by_cases minus : c = '-'
      · simp [read, minus]; rfl
      · simp [read, plus, minus]; rfl

def apply (sign : Sign) (n : Nat) : Int :=
  if sign = .minus then -n else n

end Sign

structure Exponent where
  mark : CodePoint
  sign : Sign
  digits : Text
  deriving DecidableEq

def Exponent.text (e : Exponent) : Text :=
  e.mark :: (e.sign.text ++ e.digits)

structure Numeral where
  sign : Sign
  whole : Text
  fraction : Option Text
  exponent : Option Exponent
  deriving DecidableEq

namespace Numeral

/-- The exponent that a text begins with, and what follows it. -/
def readExponent : Text → Option Exponent × Text
  | [] => (none, [])
  | c :: rest =>
    if c = 'e' ∨ c = 'E' then
      let (sign, tail) := Sign.read rest
      match tail.takeWhile CodePoint.isDecimalDigit with
      | [] => (none, c :: rest)
      | digits => (some ⟨c, sign, digits⟩, tail.dropWhile CodePoint.isDecimalDigit)
    else (none, c :: rest)

/-- The point and the digits behind it. -/
def readFraction : Text → Option Text × Text
  | [] => (none, [])
  | c :: rest =>
    if c = '.' then
      (some (rest.takeWhile CodePoint.isDecimalDigit), rest.dropWhile CodePoint.isDecimalDigit)
    else (none, c :: rest)

/-- The longest numeral that a text begins with, and what follows it. -/
def read? (t : Text) : Option (Numeral × Text) :=
  let (sign, body) := Sign.read t
  let whole := body.takeWhile CodePoint.isDecimalDigit
  let (fraction, tail) := readFraction (body.dropWhile CodePoint.isDecimalDigit)
  if whole = [] ∧ fraction.getD [] = [] then none
  else
    let (exponent, rest) := readExponent tail
    some (⟨sign, whole, fraction, exponent⟩, rest)

/-- The longest numeral of a text after its leading white space. -/
def leading? (t : Text) : Option Numeral :=
  (read? (t.dropWhile CodePoint.isBlank)).map (·.1)

def text (n : Numeral) : Text :=
  n.sign.text ++ n.whole ++
    (n.fraction.elim [] (CodePoint.ofChar '.' :: ·)) ++
    (n.exponent.elim [] Exponent.text)

theorem text_readExponent (t : Text) :
    (readExponent t).1.elim [] Exponent.text ++ (readExponent t).2 = t := by
  cases t with
  | nil => rfl
  | cons c rest =>
    by_cases marked : c = 'e' ∨ c = 'E'
    · have signed := Sign.text_read rest
      have whole := List.takeWhile_append_dropWhile (p := CodePoint.isDecimalDigit)
        (l := (Sign.read rest).2)
      simp only [readExponent, marked, ↓reduceIte]
      split
      · rfl
      · simp [Exponent.text, whole, signed]
    · simp [readExponent, marked]

theorem text_readFraction (t : Text) :
    (readFraction t).1.elim [] (CodePoint.ofChar '.' :: ·) ++ (readFraction t).2 = t := by
  cases t with
  | nil => rfl
  | cons c rest =>
    by_cases point : c = '.' <;> simp [readFraction, point]

/-- A numeral and what follows it make up the text. -/
theorem text_of_read? {t rest : Text} {n : Numeral} (h : read? t = some (n, rest)) :
    n.text ++ rest = t := by
  simp only [read?] at h
  split at h
  · simp at h
  · obtain ⟨rfl, rfl⟩ := Prod.mk.inj (Option.some.inj h)
    have signed := Sign.text_read t
    have whole := List.takeWhile_append_dropWhile (p := CodePoint.isDecimalDigit)
      (l := (Sign.read t).2)
    have fraction := text_readFraction ((Sign.read t).2.dropWhile CodePoint.isDecimalDigit)
    have exponent := text_readExponent
      (readFraction ((Sign.read t).2.dropWhile CodePoint.isDecimalDigit)).2
    simp only [text, List.append_assoc, exponent, fraction, whole, signed]

/-- All digits before the exponent, as one number. -/
def coefficient (n : Numeral) : Nat :=
  Text.decimalValue (n.whole ++ n.fraction.getD [])

/-- The power of ten of the last digit. -/
def scale (n : Numeral) : Int :=
  n.exponent.elim 0 (fun e => e.sign.apply (Text.decimalValue e.digits)) -
    (n.fraction.getD []).length

def toBinary64 (n : Numeral) : Binary64 :=
  .ofScientific (n.sign = .minus) n.coefficient n.scale

def toDecimal (n : Numeral) : Decimal :=
  .finite (n.sign = .minus) n.coefficient n.scale

/-- A sign and digits alone, few enough for an integer. -/
def isInteger (n : Numeral) : Bool :=
  n.fraction.isNone && n.exponent.isNone && decide (n.whole.length ≤ integerDigits)

end Numeral

/-- What a number text is read as. -/
inductive Reading
  | integer (n : Int)
  | float (x : Binary64)
  deriving DecidableEq

namespace Reading

def ofNumeral (n : Numeral) : Reading :=
  if n.isInteger then .integer (n.sign.apply n.coefficient) else .float n.toBinary64

/-- The number a text begins with; zero if it begins with none. -/
def ofText (t : Text) : Reading :=
  (Numeral.leading? t).elim (.integer 0) ofNumeral

end Reading

/-- Drops underscores that stand between two digits. -/
def Text.withoutSeparators : Text → Text
  | c :: u :: d :: rest =>
    if u = '_' ∧ c.isDecimalDigit ∧ d.isDecimalDigit then c :: withoutSeparators (d :: rest)
    else c :: withoutSeparators (u :: d :: rest)
  | t => t

/-- A whole text as a float: a numeral, `inf`, `infinity` or `nan` in any case, with white space
around it and underscores between digits. -/
def Binary64.ofText? (t : Text) : Option Binary64 :=
  let t := Text.withoutSeparators (t.trim CodePoint.isBlank)
  let (sign, body) := Sign.read t
  let word := Text.asciiLower body
  if word = Text.ofString "inf" ∨ word = Text.ofString "infinity" then
    some (.infinity (sign = .minus))
  else if word = Text.ofString "nan" then some .nan
  else
    match Numeral.read? t with
    | some (numeral, []) => some numeral.toBinary64
    | _ => none

/-- A whole text as a decimal: a numeral, `inf`, `infinity`, or `nan` or `snan` with an optional
payload, in any case. -/
def Decimal.ofText? (t : Text) : Option Decimal :=
  let t := (t.trim CodePoint.isBlank).filter (· ≠ CodePoint.ofChar '_')
  let (sign, body) := Sign.read t
  let negative := decide (sign = .minus)
  let word := Text.asciiLower body
  let nan (signaling : Bool) (payload : Text) : Option Decimal :=
    if payload.all CodePoint.isDecimalDigit then
      some (.nan negative signaling (Text.decimalValue payload))
    else none
  if word = Text.ofString "inf" ∨ word = Text.ofString "infinity" then some (.infinity negative)
  else
    match Text.after? "nan" word, Text.after? "snan" word, Numeral.read? t with
    | some payload, _, _ => nan false payload
    | _, some payload, _ => nan true payload
    | _, _, some (numeral, []) => some numeral.toDecimal
    | _, _, _ => none

end SqlTemplate
