import SqlTemplate.Json.Basic
import SqlTemplate.Number.Layout

/-!
# Writing JSON

The written form is ASCII: every other code point, and every code point that a string must not hold,
is escaped; one beyond the basic plane becomes a pair of surrogates.
-/

namespace SqlTemplate.Json

def printCodePoint (c : CodePoint) : Text :=
  if c = '\x22' then "\\\""
  else if c = '\\' then "\\\\"
  else if 0x20 ≤ c.val ∧ c.val < 0x7F then [c]
  else if c.val < 0x10000 then c.unicodeEscape
  else
    let n := c.val - 0x10000
    match CodePoint.ofNat? (0xD800 + n / 0x400), CodePoint.ofNat? (0xDC00 + n % 0x400) with
    | some high, some low => high.unicodeEscape ++ low.unicodeEscape
    | _, _ => []

def printString (t : Text) : Text :=
  CodePoint.ofChar '\x22' :: t.flatMap printCodePoint ++ [CodePoint.ofChar '\x22']

mutual

/-- Writes a value onto `written`, which holds the earlier text in reverse. -/
def printOnto (written : Text) : Json → Text
  | .null => (Text.ofString "null").reverse ++ written
  | .bool true => (Text.ofString "true").reverse ++ written
  | .bool false => (Text.ofString "false").reverse ++ written
  | .int n => (Text.ofInt n).reverse ++ written
  | .float x => x.text.reverse ++ written
  | .string t => (printString t).reverse ++ written
  | .array items => CodePoint.ofChar ']' :: printItems (CodePoint.ofChar '[' :: written) items
  | .object members =>
    CodePoint.ofChar '\x7d' :: printMembers (CodePoint.ofChar '\x7b' :: written) members

def printItems (written : Text) : List Json → Text
  | [] => written
  | [item] => printOnto written item
  | item :: rest => printItems (CodePoint.ofChar ',' :: printOnto written item) rest

def printMembers (written : Text) : List (Text × Json) → Text
  | [] => written
  | [(name, item)] =>
    printOnto (CodePoint.ofChar ':' :: (printString name).reverse ++ written) item
  | (name, item) :: rest =>
    printMembers
      (CodePoint.ofChar ',' ::
        printOnto (CodePoint.ofChar ':' :: (printString name).reverse ++ written) item) rest

end

def print (j : Json) : Text :=
  (printOnto [] j).reverse

end SqlTemplate.Json
