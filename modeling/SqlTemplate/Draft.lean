import SqlTemplate.Dialect

/-!
# Drafts

A draft is SQL whose strings and names are still unescaped, up to the first failure. Writing it out
under a dialect passes each of them to the escape function once, in order, and stops at the first
call that fails.
-/

namespace SqlTemplate

inductive Part
  | sql (text : Text)
  | string (raw : Text)
  | name (raw : Text)
  deriving DecidableEq

structure Draft where
  parts : List Part
  failure : Option Failure

namespace Draft

def empty : Draft := ⟨[], none⟩

def sql (text : Text) : Draft := ⟨[.sql text], none⟩

def string (raw : Text) : Draft := ⟨[.string raw], none⟩

def name (raw : Text) : Draft := ⟨[.name raw], none⟩

def fail (failure : Failure) : Draft := ⟨[], some failure⟩

def mismatch (token : Token) (reason : Mismatch) : Draft :=
  fail (.query (.typeMismatch token reason))

/-- A draft ends at its failure, so nothing can be put behind one. -/
def append (a b : Draft) : Draft :=
  match a.failure with
  | none => ⟨a.parts ++ b.parts, b.failure⟩
  | some _ => a

instance : Append Draft := ⟨append⟩

theorem append_def (a b : Draft) : a ++ b = a.append b := rfl

theorem empty_append (a : Draft) : empty ++ a = a := rfl

theorem append_assoc (a b c : Draft) : a ++ b ++ c = a ++ (b ++ c) := by
  obtain ⟨parts, failure⟩ := a
  obtain ⟨others, reason⟩ := b
  cases failure <;> cases reason <;> simp [append_def, append]

def concat (drafts : List Draft) : Draft :=
  drafts.foldr append empty

/-- The drafts one after the other, separated by a comma and a blank. -/
def commaSeparated : List Draft → Draft
  | [] => empty
  | first :: rest => first ++ concat (rest.map (sql ", " ++ ·))

end Draft

/-- What writing out a draft does: the strings passed to the escape function, in order, and the text
or the failure that ended it. -/
structure Rendering where
  calls : List Text
  result : Except Failure Text

namespace Draft

/-- Writes parts onto `written` while recording the escape calls; both are kept in reverse. -/
def renderOnto (d : Dialect) (failure : Option Failure) (calls written : List Text) :
    List Part → Rendering
  | [] =>
    ⟨calls.reverse, match failure with
      | none => .ok written.reverse.flatten
      | some failure => .error failure⟩
  | .sql text :: rest => renderOnto d failure calls (text :: written) rest
  | .string raw :: rest =>
    match d.escape raw with
    | .ok escaped => renderOnto d failure (raw :: calls) (escaped.quoted :: written) rest
    | .error cause => ⟨(raw :: calls).reverse, .error (.fault cause)⟩
  | .name raw :: rest =>
    match d.escape raw with
    | .ok escaped => renderOnto d failure (raw :: calls) (d.enclose escaped :: written) rest
    | .error cause => ⟨(raw :: calls).reverse, .error (.fault cause)⟩

def render (d : Dialect) (draft : Draft) : Rendering :=
  renderOnto d draft.failure [] [] draft.parts

end Draft

end SqlTemplate
