import SqlTemplate.Template.Literal

/-!
# Warnings

Constructs that compile but are probably not what was meant: a brace without a partner, a block that
is opened inside another one, and a placeholder inside a quoted literal.
-/

namespace SqlTemplate

inductive Warning
  | nestedBlock (offset enclosing : Nat)
  | unopened (offset : Nat)
  | unclosed (offset : Nat)
  | placeholderInLiteral (offset : Nat) (token : Token)
  deriving DecidableEq

namespace Warning

def offset : Warning → Nat
  | .nestedBlock offset _ | .unopened offset | .unclosed offset | .placeholderInLiteral offset _ =>
    offset

def kind : Warning → Text
  | .nestedBlock .. => "nested_block"
  | .unopened _ | .unclosed _ => "unmatched_brace"
  | .placeholderInLiteral .. => "placeholder_in_literal"

def message : Warning → Text
  | .nestedBlock offset enclosing =>
    Text.ofString "'\x7b' at offset " ++ Text.ofNat offset ++
      Text.ofString " opens a block inside the block at offset " ++ Text.ofNat enclosing ++
      Text.ofString "; blocks do not nest, only the innermost pair is conditional."
  | .unopened offset =>
    Text.ofString "'\x7d' at offset " ++ Text.ofNat offset ++
      Text.ofString " has no matching '\x7b'."
  | .unclosed offset =>
    Text.ofString "'\x7b' at offset " ++ Text.ofNat offset ++ Text.ofString " is never closed."
  | .placeholderInLiteral offset token =>
    token.text.quoted ++ Text.ofString " at offset " ++ Text.ofNat offset ++
      Text.ofString " is inside a quoted literal but will still bind an argument."

end Warning

/-- The state of matching braces by nesting: the offsets of the open ones, innermost first, and the
warnings so far in reverse. -/
structure Nesting where
  opened : List Nat
  warnings : List Warning

namespace Nesting

def step (n : Nesting) (item : CodePoint × Nat) : Nesting :=
  match item.1.brace?, n.opened with
  | none, _ => n
  | some .opening, [] => ⟨[item.2], n.warnings⟩
  | some .opening, enclosing :: outer =>
    ⟨item.2 :: enclosing :: outer, .nestedBlock item.2 enclosing :: n.warnings⟩
  | some .closing, [] => ⟨[], .unopened item.2 :: n.warnings⟩
  | some .closing, _ :: outer => ⟨outer, n.warnings⟩

def scan (text : Text) : Nesting :=
  text.zipIdx.foldl step ⟨[], []⟩

end Nesting

namespace Template

/-- Warnings about braces: those found on the way, then the braces never closed. -/
def braceWarnings (text : Text) : List Warning :=
  let nesting := Nesting.scan text
  nesting.warnings.reverse ++ nesting.opened.reverse.map .unclosed

def literalWarnings (text : Text) : List Warning :=
  (literals text).flatMap fun literal =>
    (parse literal.text).slots.map fun slot =>
      .placeholderInLiteral (literal.offset + slot.offset) slot.token

/-- All warnings by offset; at one offset, those about braces come first. -/
def warnings (text : Text) : List Warning :=
  (braceWarnings text ++ literalWarnings text).mergeSort fun a b => decide (a.offset ≤ b.offset)

end Template

end SqlTemplate
