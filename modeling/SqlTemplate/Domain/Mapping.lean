import SqlTemplate.Domain.MappingTable
import SqlTemplate.Domain.ReplacementTable

/-!
# What a name is read as

Every code point of a name is kept, left out, replaced or refused. Capital letters are replaced by
small ones, and signs that stand for others by what they stand for.
-/

namespace SqlTemplate.Domain

/-- What replaces the code point `n` if it belongs to a run of every `step`-th code point. -/
def movedBy? (step n : Nat) : List Nat → Option Nat
  | [first, last, target] =>
    if first ≤ n ∧ n ≤ last ∧ (n - first) % step = 0 then some (target + (n - first)) else none
  | _ => none

def replacedBy? (n : Nat) : List Nat → Option Text
  | [] => none
  | first :: targets => if first = n then some (targets.filterMap CodePoint.ofNat?) else none

/-- What a code point is read as, if a name may hold it. -/
def replacement? (c : CodePoint) : Option Text :=
  if c.val < 0x80 then some [c.asciiLower]
  else if c.isIn disallowed then none
  else if c.isIn ignored then some []
  else
    match shifted.findSome? (movedBy? 1 c.val) <|> alternating.findSome? (movedBy? 2 c.val) with
    | some target => (CodePoint.ofNat? target).map ([·])
    | none =>
      let replaced := [replacedA, replacedB, replacedC]
      some ((replaced.findSome? (·.findSome? (replacedBy? c.val))).getD [c])

/-- What a name is read as, if it may hold all of its code points. -/
def replaced? (name : Text) : Option Text :=
  (name.mapM replacement?).map List.flatten

/-- Whether a code point is read as itself. -/
def isStable (c : CodePoint) : Bool :=
  decide (replacement? c = some [c])

end SqlTemplate.Domain
