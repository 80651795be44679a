import SqlTemplate.Template.Slot

/-!
# The cut into placeholders

A template is read from left to right (`readFrom`): a question mark starts a placeholder, which
takes a mark behind it, and every other code point stands for itself. The parsed template holds
exactly these pieces (`pieces_parseFrom`), and two texts are read one after the other unless a mark
comes to stand behind a question mark (`readFrom_append`).
-/

namespace SqlTemplate

/-- A code point of a template that stands for itself, or a placeholder with its offset. -/
inductive Piece
  | plain (c : CodePoint)
  | placeholder (token : Token) (offset : Nat)
  deriving DecidableEq

def Piece.text : Piece → Text
  | .plain c => [c]
  | .placeholder token _ => token.text

/-- The same piece in a text that begins `n` code points later. -/
def Piece.moved (n : Nat) : Piece → Piece
  | .plain c => .plain c
  | .placeholder token offset => .placeholder token (offset + n)

namespace Template

/-- The pieces of a template, in order. -/
def pieces (t : Template) : List Piece :=
  t.head.map .plain ++ t.slots.flatMap fun slot =>
    .placeholder slot.token slot.offset :: slot.following.map .plain

/-- The pieces of a text that begins at `offset`. -/
def readFrom (offset : Nat) : Text → List Piece
  | [] => []
  | [c] => if c = '?' then [.placeholder .any offset] else [.plain c]
  | c :: mark :: rest =>
    if c = '?' then
      match Token.ofMark? mark with
      | some token => .placeholder token offset :: readFrom (offset + 2) rest
      | none => .placeholder .any offset :: readFrom (offset + 1) (mark :: rest)
    else .plain c :: readFrom (offset + 1) (mark :: rest)

/-- Parses a text that begins at `offset`. -/
def parseFrom (offset : Nat) (text : Text) : Template :=
  (text.zipIdx offset).foldr prepend empty

theorem ofMark?_question : Token.ofMark? (CodePoint.ofChar '?') = none := by decide

theorem ofMark?_ne_any (c : CodePoint) : Token.ofMark? c ≠ some .any := by
  grind [Token.ofMark?]

theorem head_prepend (c : CodePoint) (offset : Nat) (t : Template) :
    (prepend (c, offset) t).head = if c = '?' then [] else c :: t.head := by
  unfold prepend
  split
  · split
    · rfl
    · split <;> rfl
  · rfl

theorem pieces_prepend_plain {c : CodePoint} (h : c ≠ '?') (offset : Nat) (t : Template) :
    (prepend (c, offset) t).pieces = .plain c :: t.pieces := by
  simp [prepend, h, pieces]

/-- A question mark takes the first code point of the text behind it exactly if that is a mark. -/
theorem pieces_prepend_question (offset : Nat) (t : Template) :
    (prepend (CodePoint.ofChar '?', offset) t).pieces =
      match t.head.head?.bind Token.ofMark? with
      | some token => .placeholder token offset :: pieces ⟨t.head.tail, t.slots⟩
      | none => .placeholder .any offset :: t.pieces := by
  obtain ⟨head, slots⟩ := t
  cases head with
  | nil => simp [prepend, pieces]
  | cons mark rest => cases kind : Token.ofMark? mark <;> simp [prepend, pieces, kind]

theorem pieces_parseFrom (offset : Nat) (text : Text) :
    (parseFrom offset text).pieces = readFrom offset text := by
  fun_induction readFrom offset text with
  | case1 => rfl
  | case2 offset => rfl
  | case3 offset c plain => simp [parseFrom, pieces_prepend_plain plain]; rfl
  | case4 offset mark rest token kind ih =>
    have plain : mark ≠ '?' := by
      rintro rfl
      simp [ofMark?_question] at kind
    have split : parseFrom offset (CodePoint.ofChar '?' :: mark :: rest) =
        prepend (CodePoint.ofChar '?', offset)
          (prepend (mark, offset + 1) (parseFrom (offset + 2) rest)) := rfl
    rw [split, pieces_prepend_question, ← ih]
    simp [prepend, plain, kind]
  | case5 offset mark rest kind ih =>
    have split : parseFrom offset (CodePoint.ofChar '?' :: mark :: rest) =
        prepend (CodePoint.ofChar '?', offset) (parseFrom (offset + 1) (mark :: rest)) := rfl
    have unmarked :
        (parseFrom (offset + 1) (mark :: rest)).head.head?.bind Token.ofMark? = none := by
      change (prepend (mark, offset + 1) (parseFrom (offset + 2) rest)).head.head?.bind _ = none
      rw [head_prepend]
      by_cases question : mark = '?' <;> simp [question, kind]
    rw [split, pieces_prepend_question, unmarked, ih]
  | case6 offset c mark rest plain ih =>
    have split : parseFrom offset (c :: mark :: rest) =
        prepend (c, offset) (parseFrom (offset + 1) (mark :: rest)) := rfl
    rw [split, pieces_prepend_plain plain, ih]

theorem text_pieces (t : Template) : t.pieces.flatMap Piece.text = t.text := by
  simp [pieces, text, List.flatMap_assoc, List.flatMap_map, Piece.text]

theorem readFrom_plain {c : CodePoint} (plain : c ≠ '?') (offset : Nat) (rest : Text) :
    readFrom offset (c :: rest) = .plain c :: readFrom (offset + 1) rest := by
  cases rest <;> simp [readFrom, plain]

theorem readFrom_add (n offset : Nat) (text : Text) :
    readFrom (offset + n) text = (readFrom offset text).map (.moved n) := by
  fun_induction readFrom offset text with
  | case1 => rfl
  | case2 => simp [readFrom, Piece.moved]
  | case3 offset c plain => simp [readFrom, plain, Piece.moved]
  | case4 offset mark rest token kind ih =>
    rw [Nat.add_right_comm] at ih
    simp [readFrom, kind, ih, Piece.moved]
  | case5 offset mark rest kind ih =>
    rw [Nat.add_right_comm] at ih
    simp [readFrom, kind, ih, Piece.moved]
  | case6 offset c mark rest plain ih =>
    rw [Nat.add_right_comm] at ih
    simp [readFrom, plain, ih, Piece.moved]

/-- Placeholders lie within the text. -/
theorem placeholder_mem_readFrom {start : Nat} {text : Text} {token : Token} {offset : Nat}
    (mem : Piece.placeholder token offset ∈ readFrom start text) :
    start ≤ offset ∧ offset < start + text.length := by
  fun_induction readFrom start text <;> grind

/-- No mark of the second text comes to stand behind a question mark of the first. -/
def Separate (a b : Text) : Prop :=
  a.getLast? = some (CodePoint.ofChar '?') → ∀ mark ∈ b.head?, Token.ofMark? mark = none

theorem Separate.tail {c : CodePoint} {a b : Text} (separate : Separate (c :: a) b) :
    Separate a b := by
  intro last
  apply separate
  rw [List.getLast?_cons, last, Option.getD_some]

theorem readFrom_append {a b : Text} (separate : Separate a b) (offset : Nat) :
    readFrom offset (a ++ b) = readFrom offset a ++ readFrom (offset + a.length) b := by
  fun_induction readFrom offset a with
  | case1 => rfl
  | case2 offset =>
    have unmarked := separate rfl
    cases b with
    | nil => rfl
    | cons mark b => simp [readFrom, unmarked mark rfl]
  | case3 offset c plain =>
    cases b with
    | nil => simp [readFrom, plain]
    | cons mark b => simp [readFrom, plain]
  | case4 offset mark rest token kind ih =>
    have others := ih separate.tail.tail
    simp [readFrom, kind, others, Nat.add_assoc, Nat.add_comm 2]
  | case5 offset mark rest kind ih =>
    have others := ih separate.tail
    rw [List.cons_append] at others
    simp [readFrom, kind, others, Nat.add_assoc, Nat.add_comm 1]
  | case6 offset c mark rest plain ih =>
    have others := ih separate.tail
    rw [List.cons_append] at others
    simp [readFrom, plain, others, Nat.add_assoc, Nat.add_comm 1]

/-- The kind and the offset of a placeholder. -/
def placeholder? : Piece → Option (Token × Nat)
  | .plain _ => none
  | .placeholder token offset => some (token, offset)

/-- The placeholders of a text that begins at `offset`, in order. -/
def placeholdersFrom (offset : Nat) (text : Text) : List (Token × Nat) :=
  (readFrom offset text).filterMap placeholder?

theorem mem_placeholdersFrom {offset : Nat} {text : Text} {p : Token × Nat}
    (mem : p ∈ placeholdersFrom offset text) : offset ≤ p.2 ∧ p.2 < offset + text.length := by
  obtain ⟨piece, read, found⟩ := List.mem_filterMap.mp mem
  cases piece with
  | plain c => nomatch found
  | placeholder token place =>
    obtain rfl : (token, place) = p := Option.some.inj found
    exact placeholder_mem_readFrom read

theorem placeholdersFrom_append {a b : Text} (separate : Separate a b) (offset : Nat) :
    placeholdersFrom offset (a ++ b) =
      placeholdersFrom offset a ++ placeholdersFrom (offset + a.length) b := by
  simp only [placeholdersFrom, readFrom_append separate, List.filterMap_append]

theorem placeholdersFrom_add (n offset : Nat) (text : Text) :
    placeholdersFrom (offset + n) text =
      (placeholdersFrom offset text).map fun p => (p.1, p.2 + n) := by
  have moved (piece : Piece) : placeholder? (piece.moved n) =
      (placeholder? piece).map fun p => (p.1, p.2 + n) := by
    cases piece <;> rfl
  simp only [placeholdersFrom, readFrom_add, List.filterMap_map, List.map_filterMap,
    Function.comp_def, moved]

theorem placeholdersFrom_ascending (offset : Nat) (text : Text) :
    (placeholdersFrom offset text).Pairwise fun p q => p.2 < q.2 := by
  have cons (token : Token) (offset width : Nat) (rest : Text) (positive : 0 < width)
      (others : (placeholdersFrom (offset + width) rest).Pairwise fun p q => p.2 < q.2) :
      ((token, offset) :: placeholdersFrom (offset + width) rest).Pairwise
        fun p q => p.2 < q.2 := by
    refine List.pairwise_cons.mpr ⟨?_, others⟩
    intro p mem
    have low := (mem_placeholdersFrom mem).1
    simp only
    omega
  rw [placeholdersFrom]
  fun_induction readFrom offset text with
  | case1 => exact List.Pairwise.nil
  | case2 => exact List.pairwise_singleton _ _
  | case3 => exact List.Pairwise.nil
  | case4 offset mark rest token kind ih => exact cons token offset 2 rest (by decide) ih
  | case5 offset mark rest kind ih => exact cons .any offset 1 (mark :: rest) (by decide) ih
  | case6 offset c mark rest plain ih => exact ih

/-- The placeholders of the parsed text. -/
theorem placeholdersFrom_zero (text : Text) :
    placeholdersFrom 0 text = (parse text).slots.map fun slot => (slot.token, slot.offset) := by
  have plain (text : Text) : (text.map Piece.plain).filterMap placeholder? = [] := by
    rw [List.filterMap_map]
    exact List.filterMap_eq_nil_iff.mpr fun _ _ => rfl
  have parsed : readFrom 0 text = (parse text).pieces := (pieces_parseFrom 0 text).symm
  rw [placeholdersFrom, parsed, pieces, List.filterMap_append, plain, List.nil_append]
  induction (parse text).slots with
  | nil => rfl
  | cons slot slots ih => simp [placeholder?, plain, ih]

/-- A cut of a text that begins at `start`: nothing is lost, every question mark starts a
placeholder, a bare one has no mark behind it, and every offset counts what stands before it. -/
structure Cuts (t : Template) (start : Nat) (text : Text) : Prop where
  whole : t.text = text
  head : CodePoint.ofChar '?' ∉ t.head
  following : ∀ slot ∈ t.slots, CodePoint.ofChar '?' ∉ slot.following
  bare : ∀ slot ∈ t.slots, slot.token = .any →
    ∀ mark ∈ slot.following.head?, Token.ofMark? mark = none
  offset : ∀ before slot after, t.slots = before ++ slot :: after →
    slot.offset = start + (Template.mk t.head before).text.length

/-- A placeholder begins with a question mark of the text. -/
theorem Cuts.question {t : Template} {text : Text} (cuts : t.Cuts 0 text) {slot : Slot}
    (mem : slot ∈ t.slots) : text[slot.offset]? = some (CodePoint.ofChar '?') := by
  obtain ⟨before, after, split⟩ := List.append_of_mem mem
  obtain ⟨others, begins⟩ : ∃ others, slot.token.text = CodePoint.ofChar '?' :: others := by
    cases slot.token <;> exact ⟨_, rfl⟩
  have whole : text = (Template.mk t.head before).text ++
      CodePoint.ofChar '?' :: (others ++ slot.following ++
        after.flatMap fun slot => slot.token.text ++ slot.following) := by
    rw [← cuts.whole]
    simp [Template.text, split, begins]
  rw [cuts.offset before slot after split, whole, Nat.zero_add,
    List.getElem?_append_right (Nat.le_refl _)]
  simp

theorem Cuts.prepend_plain {c : CodePoint} {t : Template} {start : Nat} {text : Text}
    (cuts : t.Cuts (start + 1) text) (plain : c ≠ '?') :
    (prepend (c, start) t).Cuts start (c :: text) := by
  have whole := text_prepend (c, start) t
  simp only [prepend, plain, if_false] at whole ⊢
  refine ⟨by rw [whole, cuts.whole], ?_, cuts.following, cuts.bare, ?_⟩
  · simp [cuts.head, Ne.symm plain]
  · intro before slot after split
    rw [cuts.offset before slot after split]
    simp [Template.text]
    omega

/-- A question mark starts a placeholder in front of all others. -/
theorem prepend_question (start : Nat) (t : Template) :
    ∃ slot, prepend (CodePoint.ofChar '?', start) t = ⟨[], slot :: t.slots⟩ ∧
      slot.offset = start ∧ slot.token.text ++ slot.following = CodePoint.ofChar '?' :: t.head ∧
      slot.following ⊆ t.head ∧
      (slot.token = .any → ∀ mark ∈ slot.following.head?, Token.ofMark? mark = none) := by
  obtain ⟨head, slots⟩ := t
  cases head with
  | nil => exact ⟨⟨.any, start, []⟩, by simp [prepend], rfl, rfl, by simp, by simp⟩
  | cons mark rest =>
    cases kind : Token.ofMark? mark with
    | none =>
      refine ⟨⟨.any, start, mark :: rest⟩, by simp [prepend, kind], rfl, rfl, by simp, ?_⟩
      simpa using kind
    | some token =>
      refine ⟨⟨token, start, rest⟩, by simp [prepend, kind], rfl, ?_, by simp, ?_⟩
      · simp [Token.text_of_ofMark? kind]
      · rintro rfl
        exact absurd kind (ofMark?_ne_any mark)

theorem Cuts.prepend_question {t : Template} {start : Nat} {text : Text}
    (cuts : t.Cuts (start + 1) text) :
    (prepend (CodePoint.ofChar '?', start) t).Cuts start (CodePoint.ofChar '?' :: text) := by
  have whole := text_prepend (CodePoint.ofChar '?', start) t
  obtain ⟨slot, shape, place, covers, within, bare⟩ := Template.prepend_question start t
  rw [shape] at whole ⊢
  refine ⟨by rw [whole, cuts.whole], List.not_mem_nil, ?_, ?_, ?_⟩
  · intro other mem
    rcases List.mem_cons.mp mem with rfl | mem
    · exact fun question => cuts.head (within question)
    · exact cuts.following other mem
  · intro other mem
    rcases List.mem_cons.mp mem with rfl | mem
    · exact bare
    · exact cuts.bare other mem
  · intro before other after split
    cases before with
    | nil =>
      obtain ⟨rfl, -⟩ := List.cons.inj split
      simp [place, Template.text]
    | cons first before =>
      obtain ⟨rfl, others⟩ := List.cons.inj split
      have length := congrArg List.length covers
      rw [cuts.offset before other after others]
      simp [Template.text] at length ⊢
      omega

theorem parseFrom_cuts (text : Text) : ∀ start : Nat, (parseFrom start text).Cuts start text := by
  induction text with
  | nil =>
    intro start
    exact ⟨rfl, List.not_mem_nil, nofun, nofun, by simp [parseFrom, empty]⟩
  | cons c text ih =>
    intro start
    change (prepend (c, start) (parseFrom (start + 1) text)).Cuts start (c :: text)
    by_cases question : c = '?'
    · rw [question]
      exact (ih (start + 1)).prepend_question
    · exact (ih (start + 1)).prepend_plain question

/-- Reading loses nothing. -/
theorem text_readFrom (start : Nat) (text : Text) :
    (readFrom start text).flatMap Piece.text = text := by
  rw [← pieces_parseFrom, text_pieces, (parseFrom_cuts text start).whole]

end Template

end SqlTemplate
