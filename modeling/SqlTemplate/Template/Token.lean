import SqlTemplate.Text.CodePoint

/-!
# Kinds of placeholders

A placeholder is a question mark, alone or with a mark behind it that selects how its argument is
written. A kind is written as exactly the text that selects it (`Token.text_of_ofMark?`).
-/

namespace SqlTemplate

/-- The kind of a placeholder: how the argument bound to it is written. -/
inductive Token
  | integer
  | float
  | list
  | name
  | any
  deriving DecidableEq

namespace Token

/-- The kind that a mark behind the question mark selects. -/
def ofMark? (c : CodePoint) : Option Token :=
  if c = 'd' then some .integer
  else if c = 'f' then some .float
  else if c = 'a' then some .list
  else if c = '#' then some .name
  else none

def text : Token → Text
  | .integer => "?d"
  | .float => "?f"
  | .list => "?a"
  | .name => "?#"
  | .any => "?"

theorem text_of_ofMark? {c : CodePoint} {token : Token} (h : ofMark? c = some token) :
    token.text = [CodePoint.ofChar '?', c] := by
  unfold ofMark? at h
  split at h
  · next mark => cases h; subst mark; decide
  · split at h
    · next mark => cases h; subst mark; decide
    · split at h
      · next mark => cases h; subst mark; decide
      · split at h
        · next mark => cases h; subst mark; decide
        · simp at h

/-- All kinds, in the order in which they are documented. -/
def all : List Token :=
  [.integer, .float, .list, .name, .any]

end Token

end SqlTemplate
