/-!
# Code points and text

Offsets, lengths and the width of a quote are all counted in code points, so text is a list of
them. A surrogate is a code point like any other here: a JSON string can spell one that stands
alone, and it has to travel through a query unharmed.
-/

namespace SqlTemplate

/-- A Unicode code point, surrogates included. -/
structure CodePoint where
  val : Nat
  isLt : val < 0x110000
  deriving DecidableEq

namespace CodePoint

def ofChar (c : Char) : CodePoint :=
  ⟨c.toNat, by
    rcases c.valid with low | ⟨_, high⟩
    · exact Nat.lt_trans low (by decide)
    · exact high⟩

instance : Coe Char CodePoint := ⟨ofChar⟩

instance : Inhabited CodePoint := ⟨ofChar ' '⟩

def ofNat? (n : Nat) : Option CodePoint :=
  if h : n < 0x110000 then some ⟨n, h⟩ else none

/-- `lo ≤ c ≤ hi`, by number. -/
def within (lo hi : Nat) (c : CodePoint) : Bool :=
  decide (lo ≤ c.val) && decide (c.val ≤ hi)

/-- A half of a surrogate pair, which no encoding form may spell on its own. -/
def isSurrogate (c : CodePoint) : Bool :=
  c.within 0xD800 0xDFFF

/-- The lower-case letter for `A` to `Z`; every other code point unchanged. -/
def asciiLower (c : CodePoint) : CodePoint :=
  if h : 0x41 ≤ c.val ∧ c.val ≤ 0x5A then ⟨c.val + 32, by omega⟩ else c

/-- The upper-case letter for `a` to `z`; every other code point unchanged. -/
def asciiUpper (c : CodePoint) : CodePoint :=
  if h : 0x61 ≤ c.val ∧ c.val ≤ 0x7A then ⟨c.val - 32, by omega⟩ else c

def isAsciiDigit (c : CodePoint) : Bool :=
  c.within 0x30 0x39

def isAsciiLetter (c : CodePoint) : Bool :=
  c.within 0x41 0x5A || c.within 0x61 0x7A

/-- The value of a hexadecimal digit of either case. -/
def hexDigit? (c : CodePoint) : Option Nat :=
  if c.within 0x30 0x39 then some (c.val - 0x30)
  else if c.within 0x41 0x46 then some (c.val - 0x37)
  else if c.within 0x61 0x66 then some (c.val - 0x57)
  else none

end CodePoint

abbrev Text := List CodePoint

namespace Text

def ofString (s : String) : Text :=
  s.toList.map CodePoint.ofChar

instance : Coe String Text := ⟨ofString⟩

/-- The decimal numeral of `n`, without leading zeros. -/
def ofNat (n : Nat) : Text :=
  (Nat.toDigits 10 n).map CodePoint.ofChar

/-- The decimal numeral of `n`, with a minus sign for a negative number. -/
def ofInt (n : Int) : Text :=
  if n < 0 then CodePoint.ofChar '-' :: ofNat n.natAbs else ofNat n.natAbs

def zeros (n : Nat) : Text :=
  List.replicate n (CodePoint.ofChar '0')

/-- The decimal numeral of `n`, filled with zeros to at least `width` digits. -/
def ofNatPadded (width n : Nat) : Text :=
  zeros (width - (ofNat n).length) ++ ofNat n

/-- The texts one after the other, with `separator` between neighbours. -/
def join (separator : Text) : List Text → Text
  | [] => []
  | first :: rest => first ++ rest.flatMap (separator ++ ·)

/-- The parts of a text between the code points that satisfy `p`. -/
def split (p : CodePoint → Bool) (t : Text) : List Text :=
  t.foldr (fun c parts =>
    match parts with
    | [] => if p c then [[], []] else [[c]]
    | part :: rest => if p c then [] :: part :: rest else (c :: part) :: rest) [[]]

def asciiLower (t : Text) : Text :=
  t.map CodePoint.asciiLower

/-- `t` between single quotes. -/
def quoted (t : Text) : Text :=
  CodePoint.ofChar '\x27' :: t ++ [CodePoint.ofChar '\x27']

/-- What follows `start` in `t`, if `t` begins with `start`. -/
def after? : Text → Text → Option Text
  | [], t => some t
  | _ :: _, [] => none
  | s :: start, c :: t => if s = c then after? start t else none

theorem after?_eq_some_iff {start t rest : Text} :
    after? start t = some rest ↔ t = start ++ rest := by
  induction start generalizing t with
  | nil => simp [after?]
  | cons s start ih =>
    cases t with
    | nil => simp [after?]
    | cons c t =>
      by_cases h : s = c
      · simp [after?, h, ih]
      · simp [after?, h, Ne.symm h]

def dropEndWhile (p : CodePoint → Bool) (t : Text) : Text :=
  (t.reverse.dropWhile p).reverse

/-- Drops the code points that satisfy `p` from both ends. -/
def trim (p : CodePoint → Bool) (t : Text) : Text :=
  dropEndWhile p (t.dropWhile p)

end Text

/-- A code point as `\u` and four hexadecimal digits. -/
def CodePoint.unicodeEscape (c : CodePoint) : Text :=
  let digits := (Nat.toDigits 16 c.val).map CodePoint.ofChar
  Text.ofString "\\u" ++ Text.zeros (4 - digits.length) ++ digits

end SqlTemplate
