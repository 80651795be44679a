import SqlTemplate.Json.Basic
import SqlTemplate.Number.Numeral

/-!
# Reading JSON

A malformed text is reported by the offset at which reading had to stop: the begin of a value, a
name or a delimiter that is missing, the opening quote of a string that never ends, or the spot
inside a string that no string can hold.
-/

namespace SqlTemplate

inductive JsonError
  | malformed (offset : Nat)
  | integerTooLong
  | tooDeep
  deriving DecidableEq

/-- How long an integer and how deep a value may be. -/
structure JsonLimits where
  digits : Nat
  depth : Nat

/-- What is left of a text, and its offset. -/
structure Cursor where
  rest : Text
  offset : Nat

namespace Cursor

def advance (c : Cursor) (n : Nat) : Cursor :=
  ⟨c.rest.drop n, c.offset + n⟩

def isJsonBlank (c : CodePoint) : Bool :=
  c = ' ' || c = '\t' || c = '\n' || c = '\r'

def skipBlanks (c : Cursor) : Cursor :=
  c.advance (c.rest.takeWhile isJsonBlank).length

end Cursor

namespace Json

/-- The number that the next four hexadecimal digits spell. -/
def hex4? : Text → Option Nat
  | a :: b :: c :: d :: _ => do
    some ((((← a.hexDigit?) * 16 + (← b.hexDigit?)) * 16 + (← c.hexDigit?)) * 16 + (← d.hexDigit?))
  | _ => none

/-- A unit of UTF-16 as a code point of its own. -/
def unit (n : Nat) : CodePoint :=
  (CodePoint.ofNat? n).getD default

/-- The code point that a high and a low surrogate stand for. -/
def joined (high low : Nat) : CodePoint :=
  unit (0x10000 + (high - 0xD800) * 0x400 + (low - 0xDC00))

/-- The code point of `\u` and four digits, and how many code points it takes behind the backslash;
`offset` is that of the `u` and `digits` what follows it. A pair of surrogates is read as one if
more of the text follows. -/
def unicodeEscape (offset : Nat) (digits : Text) : Except JsonError (CodePoint × Nat) :=
  if (digits.drop 4).isEmpty then .error (.malformed offset)
  else
    match hex4? digits with
    | none => .error (.malformed offset)
    | some high =>
      match digits.drop 4 with
      | backslash :: u :: more =>
        if 0xD800 ≤ high ∧ high ≤ 0xDBFF ∧ backslash = '\\' ∧ u = 'u' ∧ more.drop 4 ≠ [] then
          match hex4? more with
          | none => .error (.malformed (offset + 6))
          | some low =>
            if 0xDC00 ≤ low ∧ low ≤ 0xDFFF then .ok (joined high low, 11) else .ok (unit high, 5)
        else .ok (unit high, 5)
      | _ => .ok (unit high, 5)

def simpleEscape? (c : CodePoint) : Option CodePoint :=
  if c = '\x22' ∨ c = '\\' ∨ c = '/' then some c
  else if c = 'b' then some (unit 8)
  else if c = 'f' then some (unit 12)
  else if c = 'n' then some (unit 10)
  else if c = 'r' then some (unit 13)
  else if c = 't' then some (unit 9)
  else none

/-- Reads a string onto `read`, which holds its beginning in reverse, up to the closing quote. The
next `skip` code points belong to an escape already read; `start` is the offset of the string. -/
def stringOnto (start offset skip : Nat) (read : Text) : Text → Except JsonError (Text × Cursor)
  | [] => .error (.malformed start)
  | c :: rest =>
    match skip with
    | skip + 1 => stringOnto start (offset + 1) skip read rest
    | 0 =>
      if c = '\x22' then .ok (read.reverse, ⟨rest, offset + 1⟩)
      else if c = '\\' then
        match rest with
        | [] => .error (.malformed start)
        | e :: digits =>
          if e = 'u' then
            match unicodeEscape (offset + 1) digits with
            | .error error => .error error
            | .ok (point, length) =>
              stringOnto start (offset + 1) length (point :: read) (e :: digits)
          else
            match simpleEscape? e with
            | none => .error (.malformed offset)
            | some point => stringOnto start (offset + 1) 1 (point :: read) (e :: digits)
      else if c.val < 0x20 then .error (.malformed offset)
      else stringOnto start (offset + 1) 0 (c :: read) rest

/-- The string behind an opening quote at offset `start`. -/
def readString (start : Nat) (rest : Text) : Except JsonError (Text × Cursor) :=
  stringOnto start (start + 1) 0 [] rest

/-- The digits of a number before its point: a single zero, or digits that begin with another
one. -/
def wholeDigits : Text → Text
  | [] => []
  | c :: rest =>
    if c = '0' then [c]
    else if c.isAsciiDigit then c :: rest.takeWhile CodePoint.isAsciiDigit
    else []

/-- A number. A point without a digit behind it and an exponent without digits are not part of
it. -/
def readNumber (limits : JsonLimits) (cursor : Cursor) : Except JsonError (Json × Cursor) :=
  let (sign, body) : Sign × Text :=
    match cursor.rest with
    | [] => (.absent, [])
    | c :: rest => if c = '-' then (.minus, rest) else (.absent, c :: rest)
  let whole := wholeDigits body
  let tail := body.drop whole.length
  let fraction : Option Text :=
    match tail with
    | [] => none
    | c :: rest =>
      let digits := rest.takeWhile CodePoint.isAsciiDigit
      if c = '.' ∧ digits ≠ [] then some digits else none
  let tail := tail.drop (fraction.elim 0 (·.length + 1))
  let exponent : Option Exponent :=
    match tail with
    | [] => none
    | c :: rest =>
      let (sign, digits) := Sign.read rest
      let digits := digits.takeWhile CodePoint.isAsciiDigit
      if (c = 'e' ∨ c = 'E') ∧ digits ≠ [] then some ⟨c, sign, digits⟩ else none
  let numeral : Numeral := ⟨sign, whole, fraction, exponent⟩
  if whole = [] then .error (.malformed cursor.offset)
  else
    let next := cursor.advance numeral.text.length
    if fraction.isSome ∨ exponent.isSome then .ok (.float numeral.toBinary64, next)
    else if limits.digits < whole.length then .error .integerTooLong
    else .ok (.int (sign.apply numeral.coefficient), next)

/-- The words that stand for a value. -/
def words : List (Text × Json) :=
  [("null", .null), ("true", .bool true), ("false", .bool false), ("NaN", .float .nan),
   ("Infinity", .float (.infinity false)), ("-Infinity", .float (.infinity true))]

/-- A value without parts that is not a string. -/
def readPlain (limits : JsonLimits) (cursor : Cursor) : Except JsonError (Json × Cursor) :=
  match words.find? fun (word, _) => (Text.after? word cursor.rest).isSome with
  | some (word, value) => .ok (value, cursor.advance word.length)
  | none => readNumber limits cursor

mutual

/-- A value that starts at the cursor. Each call has less `fuel` than the last and every second one
reads a code point, so twice the length of the text is enough. -/
def readValue (limits : JsonLimits) : Nat → Nat → Cursor → Except JsonError (Json × Cursor)
  | 0, _, cursor => .error (.malformed cursor.offset)
  | fuel + 1, depth, cursor =>
    match cursor.rest with
    | [] => .error (.malformed cursor.offset)
    | c :: rest =>
      if c = '\x22' then
        (readString cursor.offset rest).map fun (text, next) => (.string text, next)
      else if c = '[' then
        if limits.depth ≤ depth then .error .tooDeep
        else
          let inside := (cursor.advance 1).skipBlanks
          match inside.rest with
          | [] => readItems limits fuel (depth + 1) [] inside
          | d :: _ =>
            if d = ']' then .ok (.array [], inside.advance 1)
            else readItems limits fuel (depth + 1) [] inside
      else if c = '\x7b' then
        if limits.depth ≤ depth then .error .tooDeep
        else
          let inside := (cursor.advance 1).skipBlanks
          match inside.rest with
          | [] => readMembers limits fuel (depth + 1) [] inside
          | d :: _ =>
            if d = '\x7d' then .ok (.object [], inside.advance 1)
            else readMembers limits fuel (depth + 1) [] inside
      else readPlain limits cursor

/-- The items of an array from the next one on; `read` holds the earlier ones in reverse. -/
def readItems (limits : JsonLimits) :
    Nat → Nat → List Json → Cursor → Except JsonError (Json × Cursor)
  | 0, _, _, cursor => .error (.malformed cursor.offset)
  | fuel + 1, depth, read, cursor =>
    match readValue limits fuel depth cursor with
    | .error error => .error error
    | .ok (item, next) =>
      let next := next.skipBlanks
      match next.rest with
      | [] => .error (.malformed next.offset)
      | d :: _ =>
        if d = ']' then .ok (.array (item :: read).reverse, next.advance 1)
        else if d = ',' then readItems limits fuel depth (item :: read) (next.advance 1).skipBlanks
        else .error (.malformed next.offset)

/-- The members of an object from the next one on. -/
def readMembers (limits : JsonLimits) :
    Nat → Nat → List (Text × Json) → Cursor → Except JsonError (Json × Cursor)
  | 0, _, _, cursor => .error (.malformed cursor.offset)
  | fuel + 1, depth, read, cursor =>
    match cursor.rest with
    | [] => .error (.malformed cursor.offset)
    | quote :: rest =>
      if quote = '\x22' then
        match readString cursor.offset rest with
        | .error error => .error error
        | .ok (name, next) =>
          let next := next.skipBlanks
          match next.rest with
          | [] => .error (.malformed next.offset)
          | colon :: _ =>
            if colon = ':' then
              match readValue limits fuel depth (next.advance 1).skipBlanks with
              | .error error => .error error
              | .ok (item, next) =>
                let next := next.skipBlanks
                match next.rest with
                | [] => .error (.malformed next.offset)
                | d :: _ =>
                  if d = '\x7d' then .ok (ofMembers ((name, item) :: read).reverse, next.advance 1)
                  else if d = ',' then
                    readMembers limits fuel depth ((name, item) :: read) (next.advance 1).skipBlanks
                  else .error (.malformed next.offset)
            else .error (.malformed next.offset)
      else .error (.malformed cursor.offset)

end

/-- A text that is one value with blanks around it. -/
def parse (limits : JsonLimits) (text : Text) : Except JsonError Json :=
  match readValue limits (2 * text.length + 2) 0 (Cursor.skipBlanks ⟨text, 0⟩) with
  | .error error => .error error
  | .ok (result, next) =>
    let next := next.skipBlanks
    if next.rest = [] then .ok result else .error (.malformed next.offset)

end Json

end SqlTemplate
