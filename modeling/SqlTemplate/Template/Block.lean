import SqlTemplate.Text.CodePoint

/-!
# Conditional blocks

A block is an innermost pair of braces with what stands between them. All other braces are ordinary
text. The cut into blocks works on any items of which some are braces, so that a text and a text
with offsets are cut alike.
-/

namespace SqlTemplate

inductive Brace
  | opening
  | closing
  deriving DecidableEq

def CodePoint.brace? (c : CodePoint) : Option Brace :=
  if c = '\x7b' then some .opening
  else if c = '\x7d' then some .closing
  else none

inductive Fragment (α : Type) where
  | outside (item : α)
  | block (opening : α) (inner : List α) (closing : α)
  deriving DecidableEq

namespace Fragment

/-- A block without its braces. -/
def kept {α : Type} : Fragment α → List α
  | .outside item => [item]
  | .block _ inner _ => inner

def dropped {α : Type} : Fragment α → List α
  | .outside item => [item]
  | .block .. => []

/-- All items of a fragment. -/
def items {α : Type} : Fragment α → List α
  | .outside item => [item]
  | .block opening inner closing => opening :: (inner ++ [closing])

end Fragment

/-- A cut of the items read so far, from the last one back. If the next brace is a closing one,
`pending` holds it with the items before it, because an opening brace may still come. -/
structure Cut (α : Type) where
  pending : Option (List α × α)
  fragments : List (Fragment α)

namespace Cut

variable {α : Type}

/-- The cut with a pending brace taken as ordinary text. -/
def settled (cut : Cut α) : List (Fragment α) :=
  match cut.pending with
  | none => cut.fragments
  | some (inner, closing) => inner.map .outside ++ .outside closing :: cut.fragments

def prepend (brace? : α → Option Brace) (a : α) (cut : Cut α) : Cut α :=
  match brace? a, cut.pending with
  | some .closing, _ => ⟨some ([], a), cut.settled⟩
  | some .opening, some (inner, closing) => ⟨none, .block a inner closing :: cut.fragments⟩
  | none, some (inner, closing) => ⟨some (a :: inner, closing), cut.fragments⟩
  | _, none => ⟨none, .outside a :: cut.fragments⟩

theorem items_outside (items : List α) :
    (items.map Fragment.outside).flatMap Fragment.items = items := by
  induction items with
  | nil => rfl
  | cons item items ih => simp_all [Fragment.items]

theorem items_prepend (brace? : α → Option Brace) (a : α) (cut : Cut α) :
    (prepend brace? a cut).settled.flatMap Fragment.items =
      a :: cut.settled.flatMap Fragment.items := by
  obtain ⟨pending, fragments⟩ := cut
  rcases pending with _ | ⟨inner, closing⟩ <;> cases kind : brace? a with
    | none => simp [prepend, kind, settled, Fragment.items, items_outside]
    | some brace => cases brace <;> simp [prepend, kind, settled, Fragment.items, items_outside]

end Cut

/-- The items cut at their innermost pairs of braces. -/
def fragments {α : Type} (brace? : α → Option Brace) (items : List α) : List (Fragment α) :=
  (items.foldr (Cut.prepend brace?) ⟨none, []⟩).settled

/-- Cutting loses nothing. -/
theorem items_fragments {α : Type} (brace? : α → Option Brace) (items : List α) :
    (fragments brace? items).flatMap Fragment.items = items := by
  unfold fragments
  induction items with
  | nil => rfl
  | cons a items ih => rw [List.foldr_cons, Cut.items_prepend, ih]

/-- The code points from `start` up to but not including `stop`. -/
structure Span where
  start : Nat
  stop : Nat
  deriving DecidableEq

namespace Span

/-- Whether an offset lies behind the first and before the end of a span. -/
def encloses (s : Span) (offset : Nat) : Bool :=
  decide (s.start < offset) && decide (offset < s.stop)

end Span

def Fragment.span? : Fragment (CodePoint × Nat) → Option Span
  | .outside _ => none
  | .block opening _ closing => some ⟨opening.2, closing.2 + 1⟩

namespace Template

/-- The blocks of a text, braces included. -/
def blocks (text : Text) : List Span :=
  (fragments (fun item : CodePoint × Nat => item.1.brace?) text.zipIdx).filterMap Fragment.span?

/-- The text with all blocks left out, or with all their braces left out. -/
def settleBlocks (drop : Bool) (text : Text) : Text :=
  (fragments CodePoint.brace? text).flatMap fun f => if drop then f.dropped else f.kept

end Template

end SqlTemplate
