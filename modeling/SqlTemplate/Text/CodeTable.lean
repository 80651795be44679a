import SqlTemplate.Text.CodePoint

/-!
# Tables of code points

A table is written as rows of entries with blanks between them. An entry is a few hexadecimal
numbers with any other characters between them, such as `41-5A:61`.
-/

namespace SqlTemplate

/-- The code points from `first` to `last`, by number. -/
structure CodeRange where
  first : Nat
  last : Nat
  deriving DecidableEq

def CodeRange.contains (r : CodeRange) (n : Nat) : Bool :=
  decide (r.first ≤ n) && decide (n ≤ r.last)

namespace CodeTable

/-- A table of which some characters are read: the entries in reverse, the numbers of the entry at
hand in reverse, and the number at hand. -/
structure Reading where
  entries : List (List Nat)
  entry : List Nat
  number : Option Nat

namespace Reading

def endNumber (r : Reading) : Reading :=
  match r.number with
  | none => r
  | some n => { r with entry := n :: r.entry, number := none }

def endEntry (r : Reading) : Reading :=
  let r := r.endNumber
  match r.entry with
  | [] => r
  | entry => { r with entries := entry.reverse :: r.entries, entry := [] }

def read (r : Reading) (c : Char) : Reading :=
  match (CodePoint.ofChar c).hexDigit? with
  | some d => { r with number := some (16 * r.number.getD 0 + d) }
  | none => if c = ' ' then r.endEntry else r.endNumber

end Reading

/-- The entries of a table, each by its numbers. -/
def entries (rows : List String) : List (List Nat) :=
  let readRow (r : Reading) (row : String) : Reading := (row.toList.foldl Reading.read r).endEntry
  (rows.foldl readRow ⟨[], [], none⟩).entries.reverse

/-- The ranges of a table whose entries are a number or two. -/
def ranges (rows : List String) : List CodeRange :=
  (entries rows).filterMap fun
    | [n] => some ⟨n, n⟩
    | [first, last] => some ⟨first, last⟩
    | _ => none

end CodeTable

/-- Whether the number of a code point lies in one of the ranges. -/
def CodePoint.isIn (c : CodePoint) (ranges : List CodeRange) : Bool :=
  ranges.any fun r => r.contains c.val

end SqlTemplate
