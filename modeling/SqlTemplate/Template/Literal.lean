import SqlTemplate.Template.Block
import SqlTemplate.Template.Slot

/-!
# Quoted literals

From an opening quote, a literal is the longest text of ordinary code points, escapes of a backslash
and any code point, and doubled quotes, up to a closing quote of the same kind. A quote from which
no such text exists is passed over.
-/

namespace SqlTemplate

structure QuotedLiteral where
  offset : Nat
  /-- The literal with its quotes. -/
  text : Text
  deriving DecidableEq

namespace QuotedLiteral

/-- How many code points the literal takes whose opening quote and `read - 1` further ones have been
read. The first half of a doubled quote can serve as the closing quote after all; `fallback` is the
length that the last one gives. -/
def lengthFrom (quote : CodePoint) (read : Nat) (fallback : Option Nat) : Text → Option Nat
  | [] => fallback
  | c :: rest =>
    if c = quote then
      match rest with
      | [] => some (read + 1)
      | d :: rest =>
        if d = quote then lengthFrom quote (read + 2) (some (read + 1)) rest else some (read + 1)
    else if c = '\\' then
      match rest with
      | [] => fallback
      | _ :: rest => lengthFrom quote (read + 2) fallback rest
    else lengthFrom quote (read + 1) fallback rest

/-- The length of the literal that a text begins with. -/
def length? : Text → Option Nat
  | [] => none
  | c :: rest => if c = '\x27' ∨ c = '\x22' then lengthFrom c 1 none rest else none

/-- Adds the literals of a text to those `found` before it, which are kept in reverse. The first
`skip` code points belong to the last of them. -/
def findFrom (offset skip : Nat) (found : List QuotedLiteral) : Text → List QuotedLiteral
  | [] => found.reverse
  | c :: rest =>
    match skip with
    | skip + 1 => findFrom (offset + 1) skip found rest
    | 0 =>
      match length? (c :: rest) with
      | none => findFrom (offset + 1) 0 found rest
      | some length =>
        findFrom (offset + 1) (length - 1) (⟨offset, (c :: rest).take length⟩ :: found) rest

end QuotedLiteral

namespace Template

/-- The quoted literals of a text, from left to right. -/
def literals (text : Text) : List QuotedLiteral :=
  QuotedLiteral.findFrom 0 0 [] text

end Template

end SqlTemplate
