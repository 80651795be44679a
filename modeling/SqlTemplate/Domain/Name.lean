import SqlTemplate.Domain.Bidi
import SqlTemplate.Domain.Composition
import SqlTemplate.Domain.JoiningTable
import SqlTemplate.Domain.Mapping
import SqlTemplate.Domain.Punycode

/-!
# Names in ASCII

A name is written in ASCII label by label: a label that is not ASCII after mapping and composition
is written as `xn--` and its punycode. A label that is punycode already has to stand for a label
that mapping and composition leave alone.
-/

namespace SqlTemplate.Domain

/-- Whether a code point of ASCII may not stand in a name. -/
def isForbidden (c : CodePoint) : Bool :=
  c.val ≤ 0x20 || c.val = 0x7F || (Text.ofString "%#/:<>?@[\\]^|").contains c

/-- Whether the letter before joins the one behind, marks in between left out. -/
def joins (before behind : Text) : Bool :=
  let isTransparent (c : CodePoint) : Bool := c.isIn transparent
  (before.reverse.dropWhile isTransparent).head?.any
      (fun c => c.isIn leftJoining || c.isIn dualJoining) &&
    (behind.dropWhile isTransparent).head?.any
      (fun c => c.isIn rightJoining || c.isIn dualJoining)

/-- Whether each joiner in the rest of a label has the neighbours that it is for: a virama before
it, or for a non-joiner letters that would join. -/
def joinersFit (before : Text) : Text → Bool
  | [] => true
  | c :: rest =>
    let fits :=
      (c.val ≠ 0x200C && c.val ≠ 0x200D) ||
        before.getLast?.any (fun d => combiningClass d == 9) ||
        (c.val == 0x200C && joins before rest)
    fits && joinersFit (before ++ [c]) rest

/-- Whether a label may stand in a name. -/
def isLabel (label : Text) : Bool :=
  !label.any isForbidden && !(label.head?.any fun c => c.isIn marks) && joinersFit [] label

def isAscii (t : Text) : Bool :=
  t.all fun c => decide (c.val < 0x80)

/-- The label that a label of a mapped name stands for. -/
def label? (t : Text) : Option Text :=
  match Text.after? "xn--" t with
  | none => if isLabel t then some t else none
  | some code =>
    (Punycode.decode? code).bind fun label =>
      if label.all isStable && composed label = label && isLabel label &&
          label.all (· ≠ CodePoint.ofChar '.') then some label
      else none

def labelText (label : Text) : Text :=
  if isAscii label then label else Text.ofString "xn--" ++ Punycode.encode label

/-- A name in ASCII, if it is one. -/
def toAscii? (name : Text) : Option Text := do
  let labels := Text.split (· = CodePoint.ofChar '.') (composed (← replaced? name))
  let meant ← labels.mapM label?
  if keepDirections meant then some (Text.join "." (meant.map labelText)) else none

end SqlTemplate.Domain
