import SqlTemplate.Template.Token

/-!
# Templates

A template is text with placeholders in it. Every question mark starts a placeholder, which takes
the next code point with it exactly if that is a mark.
-/

namespace SqlTemplate

/-- A placeholder, its offset in the template, and the text up to the next one. -/
structure Slot where
  token : Token
  offset : Nat
  following : Text
  deriving DecidableEq

structure Template where
  head : Text
  slots : List Slot
  deriving DecidableEq

namespace Template

def empty : Template := ⟨[], []⟩

/-- Puts a code point in front of a template; a mark that a question mark finds behind it becomes
part of the placeholder. -/
def prepend (c : CodePoint × Nat) (t : Template) : Template :=
  if c.1 = '?' then
    match t.head with
    | [] => ⟨[], ⟨.any, c.2, []⟩ :: t.slots⟩
    | mark :: rest =>
      match Token.ofMark? mark with
      | some token => ⟨[], ⟨token, c.2, rest⟩ :: t.slots⟩
      | none => ⟨[], ⟨.any, c.2, mark :: rest⟩ :: t.slots⟩
  else ⟨c.1 :: t.head, t.slots⟩

/-- Cuts a text into placeholders and the text around them. -/
def parse (text : Text) : Template :=
  text.zipIdx.foldr prepend empty

/-- A template written out again. -/
def text (t : Template) : Text :=
  t.head ++ t.slots.flatMap fun slot => slot.token.text ++ slot.following

theorem text_prepend (c : CodePoint × Nat) (t : Template) : (prepend c t).text = c.1 :: t.text := by
  unfold prepend
  split
  · next question =>
    rw [question]
    split
    · next head => simp [text, head]; rfl
    · next mark rest head =>
      split
      · next token known => simp [text, head, Token.text_of_ofMark? known]
      · simp [text, head]; rfl
  · simp [text]

/-- Parsing loses nothing. -/
theorem text_parse (t : Text) : (parse t).text = t := by
  have written (items : List (CodePoint × Nat)) :
      (items.foldr prepend empty).text = items.map (·.1) := by
    induction items with
    | nil => rfl
    | cons item items ih => simp [text_prepend, ih]
  simp [parse, written]

/-- The placeholders, in the order in which they bind arguments. -/
def tokens (text : Text) : List Token :=
  (parse text).slots.map (·.token)

end Template

end SqlTemplate
