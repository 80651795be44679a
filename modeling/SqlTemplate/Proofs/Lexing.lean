import SqlTemplate.Template.Literal

/-!
# Lexing quoted literals

The search for literals may go back to the first half of a doubled quote. `Lexes` is the cut it
finds where that never happens: every quote opens a literal or belongs to one, and no quote of the
same kind stands behind a literal. Such cuts are found (`Lexes.literalsFrom_eq`), join and split,
and a text has one if all of its quotes lie in literals (`exists_lexes`).
-/

namespace SqlTemplate

/-- A single or double quotation mark. -/
def CodePoint.IsQuote (c : CodePoint) : Prop :=
  c = CodePoint.ofChar '\x27' ∨ c = CodePoint.ofChar '\x22'

instance (c : CodePoint) : Decidable c.IsQuote :=
  inferInstanceAs (Decidable (_ ∨ _))

theorem CodePoint.IsQuote.ne_backslash {quote : CodePoint} (kind : quote.IsQuote) :
    quote ≠ '\\' := by
  rintro rfl
  revert kind
  decide

namespace QuotedLiteral

/-- What can stand between two quotes: ordinary code points, escapes, and doubled quotes. -/
inductive Quotable (quote : CodePoint) : Text → Prop
  | nil : Quotable quote []
  | plain {c : CodePoint} {rest : Text} : c ≠ quote → c ≠ '\\' → Quotable quote rest →
    Quotable quote (c :: rest)
  | escape (c : CodePoint) {rest : Text} : Quotable quote rest →
    Quotable quote (CodePoint.ofChar '\\' :: c :: rest)
  | doubled {rest : Text} : Quotable quote rest → Quotable quote (quote :: quote :: rest)

theorem Quotable.append {quote : CodePoint} {a b : Text} (left : Quotable quote a)
    (right : Quotable quote b) : Quotable quote (a ++ b) := by
  induction left with
  | nil => exact right
  | plain other unescaped _ ih => exact .plain other unescaped ih
  | escape c _ ih => exact .escape c ih
  | doubled _ ih => exact .doubled ih

/-- A body ends at the first quote that is not doubled. -/
theorem Quotable.lengthFrom_eq {quote : CodePoint} (kind : quote.IsQuote) {body : Text}
    (valid : Quotable quote body) {rest : Text} (ends : rest.head? ≠ some quote) (read : Nat)
    (fallback : Option Nat) :
    lengthFrom quote read fallback (body ++ quote :: rest) = some (read + body.length + 1) := by
  induction valid generalizing read fallback with
  | nil =>
    cases rest with
    | nil => simp [lengthFrom]
    | cons d rest =>
      have other : d ≠ quote := fun same => ends (by simp [same])
      simp [lengthFrom, other]
  | @plain c body other unescaped _ ih =>
    rw [List.cons_append, lengthFrom.eq_def]
    simp only [other, unescaped, if_false, ih, List.length_cons]
    congr 1
    omega
  | @escape c body _ ih =>
    rw [List.cons_append, List.cons_append, lengthFrom.eq_def]
    simp only [kind.ne_backslash.symm, if_false, if_true, ih, List.length_cons]
    congr 1
    omega
  | @doubled body _ ih =>
    rw [List.cons_append, List.cons_append, lengthFrom.eq_def]
    simp only [if_true, ih, List.length_cons]
    congr 1
    omega

/-- How a search for the closing quote can end. -/
inductive Search (quote : CodePoint) : Text → Prop
  /-- At a quote that is not doubled. -/
  | closed (body rest : Text) : Quotable quote body → rest.head? ≠ some quote →
    Search quote (body ++ quote :: rest)
  /-- At the end of the text, with no doubled quote on the way. -/
  | unclosed {t : Text} : (∀ read fallback, lengthFrom quote read fallback t = fallback) →
    Search quote t
  /-- At the end of the text, so that the last doubled quote is split. -/
  | reopened (body rest : Text) : Quotable quote body →
    (∀ read fallback,
      lengthFrom quote read fallback (body ++ quote :: quote :: rest) =
        some (read + body.length + 1)) →
    (∀ read fallback, lengthFrom quote read fallback rest = fallback) →
    Search quote (body ++ quote :: quote :: rest)

/-- Text that the search passes over without taking note of it. -/
theorem Search.extend {quote : CodePoint} (passed : Text) {rest : Text}
    (valid : ∀ body, Quotable quote body → Quotable quote (passed ++ body))
    (passes : ∀ read fallback t, lengthFrom quote read fallback (passed ++ t) =
      lengthFrom quote (read + passed.length) fallback t)
    (search : Search quote rest) : Search quote (passed ++ rest) := by
  cases search with
  | closed body rest inner ends =>
    rw [← List.append_assoc]
    exact .closed _ rest (valid body inner) ends
  | unclosed failed =>
    exact .unclosed fun read fallback => by rw [passes, failed]
  | reopened body rest inner found failed =>
    rw [← List.append_assoc]
    refine .reopened _ rest (valid body inner) ?_ failed
    intro read fallback
    rw [List.append_assoc, passes, found, List.length_append, Nat.add_assoc read]

theorem Search.doubled {quote : CodePoint} {rest : Text} (search : Search quote rest) :
    Search quote (quote :: quote :: rest) := by
  have step (read : Nat) (fallback : Option Nat) (t : Text) :
      lengthFrom quote read fallback (quote :: quote :: t) =
        lengthFrom quote (read + 2) (some (read + 1)) t := by
    rw [lengthFrom.eq_def]
    simp
  cases search with
  | closed body rest inner ends => exact .closed (quote :: quote :: body) rest (.doubled inner) ends
  | unclosed failed =>
    exact .reopened [] rest .nil (fun read fallback => by simp [step, failed]) failed
  | reopened body rest inner found failed =>
    refine .reopened (quote :: quote :: body) rest (.doubled inner) ?_ failed
    intro read fallback
    rw [List.cons_append, List.cons_append, step, found, List.length_cons, List.length_cons]
    congr 1
    omega

theorem search_total {quote : CodePoint} (kind : quote.IsQuote) : ∀ t : Text, Search quote t
  | [] => .unclosed fun _ _ => by simp [lengthFrom]
  | [c] => by
    by_cases same : c = quote
    · exact same ▸ .closed [] [] .nil (by simp)
    · exact .unclosed fun _ _ => by simp [lengthFrom, same]
  | c :: d :: rest => by
    by_cases same : c = quote
    · subst same
      by_cases double : d = c
      · exact double ▸ (search_total kind rest).doubled
      · exact .closed [] (d :: rest) .nil (by simpa using double)
    · by_cases escape : c = '\\'
      · subst escape
        refine Search.extend [_, d] (fun _ => .escape d) ?_ (search_total kind rest)
        intro read fallback t
        rw [List.cons_append, lengthFrom.eq_def]
        simp [same]
      · refine Search.extend [c] (fun _ => .plain same escape) ?_ (search_total kind (d :: rest))
        intro read fallback t
        rw [List.cons_append, lengthFrom.eq_def]
        simp [same, escape]

/-- The literals of a text that begins at `offset`. -/
def literalsFrom (offset : Nat) (t : Text) : List QuotedLiteral :=
  findFrom offset 0 [] t

theorem findFrom_found (found : List QuotedLiteral) (t : Text) : ∀ offset skip : Nat,
    findFrom offset skip found t = found.reverse ++ findFrom offset skip [] t := by
  induction t generalizing found with
  | nil => simp [findFrom]
  | cons c t ih =>
    intro offset skip
    cases skip with
    | succ skip => simp only [findFrom, ih found]
    | zero =>
      simp only [findFrom]
      cases length? (c :: t) with
      | none => exact ih found _ _
      | some length =>
        simp only
        rw [ih, ih [_]]
        simp

theorem findFrom_skip (t : Text) : ∀ offset skip : Nat,
    findFrom offset skip [] t = literalsFrom (offset + skip) (t.drop skip) := by
  induction t with
  | nil => simp [findFrom, literalsFrom]
  | cons c t ih =>
    intro offset skip
    cases skip with
    | zero => rfl
    | succ skip =>
      rw [findFrom, ih, List.drop_succ_cons, Nat.add_assoc, Nat.add_comm 1]

theorem literalsFrom_cons_none {c : CodePoint} {t : Text} (none : length? (c :: t) = none)
    (offset : Nat) : literalsFrom offset (c :: t) = literalsFrom (offset + 1) t := by
  simp [literalsFrom, findFrom, none]

theorem literalsFrom_cons_some {c : CodePoint} {t : Text} {length : Nat}
    (found : length? (c :: t) = some (length + 1)) (offset : Nat) :
    literalsFrom offset (c :: t) =
      ⟨offset, (c :: t).take (length + 1)⟩ ::
        literalsFrom (offset + length + 1) (t.drop length) := by
  rw [literalsFrom, findFrom]
  simp only [found]
  rw [findFrom_found, findFrom_skip]
  simp [Nat.add_right_comm]

theorem length?_plain {c : CodePoint} (plain : ¬ c.IsQuote) (t : Text) : length? (c :: t) = none :=
  if_neg plain

theorem length?_quote {c : CodePoint} (kind : c.IsQuote) (t : Text) :
    length? (c :: t) = lengthFrom c 1 none t :=
  if_pos kind

/-- A literal that is found is cut off in front of the rest. -/
theorem literalsFrom_literal {quote : CodePoint} (kind : quote.IsQuote) {body rest : Text}
    (found : lengthFrom quote 1 none (body ++ quote :: rest) = some (1 + body.length + 1))
    (offset : Nat) :
    literalsFrom offset (quote :: (body ++ quote :: rest)) =
      ⟨offset, quote :: (body ++ [quote])⟩ :: literalsFrom (offset + body.length + 2) rest := by
  have length : length? (quote :: (body ++ quote :: rest)) = some (body.length + 1 + 1) := by
    rw [length?_quote kind, found, Nat.add_comm 1]
  have taken : (quote :: (body ++ quote :: rest)).take (body.length + 1 + 1) =
      quote :: (body ++ [quote]) := by
    rw [List.take_succ_cons, List.take_length_add_append]
    rfl
  have dropped : (body ++ quote :: rest).drop (body.length + 1) = rest := by simp
  rw [literalsFrom_cons_some length, taken, dropped]
  rfl

/-- Literals are found from left to right. -/
theorem offset_le_of_mem {t : Text} {l : QuotedLiteral} : ∀ {offset skip : Nat},
    l ∈ findFrom offset skip [] t → offset ≤ l.offset := by
  induction t with
  | nil => simp [findFrom]
  | cons c t ih =>
    intro offset skip mem
    cases skip with
    | succ skip => exact Nat.le_of_succ_le (ih mem)
    | zero =>
      rw [findFrom] at mem
      split at mem
      · exact Nat.le_of_succ_le (ih mem)
      · rw [findFrom_found, List.reverse_singleton, List.singleton_append, List.mem_cons] at mem
        rcases mem with rfl | mem
        · exact Nat.le_refl _
        · exact Nat.le_of_succ_le (ih mem)

/-- The same literal in a text that begins `n` code points later. -/
def moved (n : Nat) (l : QuotedLiteral) : QuotedLiteral :=
  ⟨l.offset + n, l.text⟩

end QuotedLiteral

open QuotedLiteral

/-- A cut of a text into plain code points and literals, none of which has a quote of its kind
behind it. -/
inductive Lexes : Nat → Text → List QuotedLiteral → Prop
  | nil (offset : Nat) : Lexes offset [] []
  | plain {offset : Nat} {c : CodePoint} {rest : Text} {found : List QuotedLiteral} :
    ¬ c.IsQuote → Lexes (offset + 1) rest found → Lexes offset (c :: rest) found
  | literal {offset : Nat} {quote : CodePoint} {body rest : Text} {found : List QuotedLiteral} :
    quote.IsQuote → Quotable quote body → rest.head? ≠ some quote →
    Lexes (offset + body.length + 2) rest found →
    Lexes offset (quote :: (body ++ quote :: rest))
      (⟨offset, quote :: (body ++ [quote])⟩ :: found)

namespace Lexes

/-- **The search finds the literals of a cut.** -/
theorem literalsFrom_eq {offset : Nat} {t : Text} {found : List QuotedLiteral}
    (lexes : Lexes offset t found) : literalsFrom offset t = found := by
  induction lexes with
  | nil => rfl
  | plain plain _ ih => rw [literalsFrom_cons_none (length?_plain plain _), ih]
  | @literal offset quote body rest found kind valid ends _ ih =>
    rw [literalsFrom_literal kind (valid.lengthFrom_eq kind ends 1 none), ih]

/-- Cuts join unless two quotes of one kind come to stand side by side. -/
theorem append {offset : Nat} {a b : Text} {found others : List QuotedLiteral}
    (left : Lexes offset a found) (right : Lexes (offset + a.length) b others)
    (apart : ∀ quote, quote.IsQuote → a.getLast? = some quote → b.head? ≠ some quote) :
    Lexes offset (a ++ b) (found ++ others) := by
  induction left with
  | nil => simpa using right
  | @plain offset c rest found plain _ ih =>
    refine .plain plain (ih ?_ ?_)
    · simpa [Nat.add_assoc, Nat.add_comm 1] using right
    · intro quote kind last
      exact apart quote kind (by simp [List.getLast?_cons, last])
  | @literal offset quote body rest found kind valid ends _ ih =>
    rw [List.cons_append, List.append_assoc, List.cons_append, List.cons_append]
    refine .literal kind valid ?_ (ih ?_ ?_)
    · cases rest with
      | nil => exact apart quote kind (by simp [List.getLast?_cons])
      | cons c rest => simpa using ends
    · have length : offset + (quote :: (body ++ quote :: rest)).length =
          offset + body.length + 2 + rest.length := by
        simp
        omega
      rwa [length] at right
    · intro quote' kind' last
      exact apart quote' kind' (by simp [List.getLast?_cons, List.getLast?_append, last])

/-- A cut splits where no literal runs on. -/
theorem split {offset : Nat} {a b : Text} {found : List QuotedLiteral}
    (lexes : Lexes offset (a ++ b) found)
    (apart : ∀ l ∈ found, ¬ (l.offset < offset + a.length ∧
      offset + a.length < l.offset + l.text.length)) :
    ∃ left right, found = left ++ right ∧ Lexes offset a left ∧
      Lexes (offset + a.length) b right := by
  generalize whole : a ++ b = t at lexes
  induction lexes generalizing a with
  | nil offset =>
    obtain ⟨rfl, rfl⟩ := List.append_eq_nil_iff.mp whole
    exact ⟨[], [], rfl, .nil _, .nil _⟩
  | @plain offset c rest found plain lexes ih =>
    cases a with
    | nil =>
      obtain rfl : b = c :: rest := whole
      exact ⟨[], found, rfl, .nil _, .plain plain lexes⟩
    | cons c' a =>
      obtain ⟨rfl, rfl⟩ := List.cons.inj whole
      have length : offset + 1 + a.length = offset + (c' :: a).length := by simp; omega
      obtain ⟨left, right, rfl, first, second⟩ := ih (by rwa [length]) rfl
      exact ⟨left, right, rfl, .plain plain first, length ▸ second⟩
  | @literal offset quote body rest found kind valid ends lexes ih =>
    cases a with
    | nil =>
      obtain rfl : b = quote :: (body ++ quote :: rest) := whole
      exact ⟨[], _, rfl, .nil _, .literal kind valid ends lexes⟩
    | cons c' a =>
      obtain ⟨rfl, inner⟩ := List.cons.inj whole
      have outside := apart _ List.mem_cons_self
      simp only [List.length_cons, List.length_append, List.length_nil] at outside
      -- The literal does not run on past `a`, so it ends within it.
      obtain ⟨rest', rfl, rfl⟩ : ∃ rest', a = body ++ c' :: rest' ∧ rest = rest' ++ b := by
        rcases List.append_eq_append_iff.mp inner with ⟨x, rfl, second⟩ | ⟨x, rfl, second⟩
        · simp only [List.length_append] at outside
          omega
        · cases x with
          | nil => simp at outside
          | cons d x =>
            obtain ⟨rfl, rfl⟩ := List.cons.inj second
            exact ⟨x, rfl, rfl⟩
      have length : offset + body.length + 2 + rest'.length =
          offset + (c' :: (body ++ c' :: rest')).length := by
        simp
        omega
      have others : ∀ l ∈ found, ¬ (l.offset < offset + body.length + 2 + rest'.length ∧
          offset + body.length + 2 + rest'.length < l.offset + l.text.length) := by
        rw [length]
        exact fun l mem => apart l (List.mem_cons_of_mem _ mem)
      obtain ⟨left, right, rfl, first, second⟩ := ih others rfl
      refine ⟨_ :: left, right, rfl, .literal kind valid ?_ first, length ▸ second⟩
      cases rest' with
      | nil => simp
      | cons d rest' => simpa using ends

/-- Text without quotes belongs to no literal. -/
theorem of_plain_append {a b : Text} (plain : ∀ c ∈ a, ¬ c.IsQuote) {offset : Nat}
    {found : List QuotedLiteral} (lexes : Lexes offset (a ++ b) found) :
    Lexes (offset + a.length) b found := by
  induction a generalizing offset with
  | nil => exact lexes
  | cons c a ih =>
    rw [List.length_cons, Nat.add_comm a.length, ← Nat.add_assoc]
    refine ih (fun d mem => plain d (List.mem_cons_of_mem _ mem)) ?_
    rw [List.cons_append] at lexes
    generalize a ++ b = t at lexes
    cases lexes with
    | plain _ rest => exact rest
    | literal kind => exact absurd kind (plain c List.mem_cons_self)

/-- The same cut of a text that begins later. -/
theorem shift {offset : Nat} {t : Text} {found : List QuotedLiteral} (lexes : Lexes offset t found)
    (n : Nat) : Lexes (offset + n) t (found.map (moved n)) := by
  induction lexes with
  | nil => exact .nil _
  | plain plain _ ih => exact .plain plain (by rwa [Nat.add_right_comm] at ih)
  | @literal offset quote body rest found kind valid ends _ ih =>
    refine .literal kind valid ends ?_
    rwa [show offset + n + body.length + 2 = offset + body.length + 2 + n by omega]

theorem restart {offset : Nat} {t : Text} {found : List QuotedLiteral}
    (lexes : Lexes offset t found) : ∀ offset', ∃ others, Lexes offset' t others := by
  induction lexes with
  | nil => exact fun offset' => ⟨[], .nil offset'⟩
  | plain plain _ ih =>
    intro offset'
    obtain ⟨others, lexes⟩ := ih (offset' + 1)
    exact ⟨others, .plain plain lexes⟩
  | @literal offset quote body rest found kind valid ends _ ih =>
    intro offset'
    obtain ⟨others, lexes⟩ := ih (offset' + body.length + 2)
    exact ⟨_, .literal kind valid ends lexes⟩

end Lexes

/-- A text that is cut into plain code points and literals. -/
def Lexable (t : Text) : Prop :=
  Lexes 0 t (Template.literals t)

namespace Lexable

theorem of_lexes {offset : Nat} {t : Text} {found : List QuotedLiteral}
    (lexes : Lexes offset t found) : Lexable t := by
  obtain ⟨others, lexes⟩ := lexes.restart 0
  have same : Template.literals t = others := lexes.literalsFrom_eq
  rwa [Lexable, same]

/-- The cut of a text that stands `n` code points further on. -/
theorem lexes {t : Text} (lexable : Lexable t) (n : Nat) :
    Lexes n t ((Template.literals t).map (moved n)) := by
  simpa using Lexes.shift lexable n

theorem of_no_quote {t : Text} (plain : ∀ c ∈ t, ¬ c.IsQuote) :
    Lexable t ∧ Template.literals t = [] := by
  have lexes : ∀ offset, Lexes offset t [] := by
    induction t with
    | nil => exact .nil
    | cons c t ih =>
      intro offset
      have others := ih fun d mem => plain d (List.mem_cons_of_mem _ mem)
      exact .plain (plain c List.mem_cons_self) (others _)
  exact ⟨of_lexes (lexes 0), (lexes 0).literalsFrom_eq⟩

theorem of_quoted {body : Text} (valid : Quotable (CodePoint.ofChar '\x27') body) :
    Lexable body.quoted ∧ Template.literals body.quoted = [⟨0, body.quoted⟩] := by
  have lexes : Lexes 0 body.quoted [⟨0, body.quoted⟩] :=
    .literal (.inl rfl) valid (by simp) (.nil _)
  exact ⟨of_lexes lexes, lexes.literalsFrom_eq⟩

/-- The literals of two texts in a row, unless quotes of one kind meet. -/
theorem append {a b : Text} (left : Lexable a) (right : Lexable b)
    (apart : ∀ quote, quote.IsQuote → a.getLast? = some quote → b.head? ≠ some quote) :
    Lexable (a ++ b) ∧ Template.literals (a ++ b) =
      Template.literals a ++ (Template.literals b).map (moved a.length) := by
  have lexes := Lexes.append left (by simpa using right.lexes a.length) apart
  exact ⟨of_lexes lexes, lexes.literalsFrom_eq⟩

end Lexable

/-- Every quote of a text that begins at `offset` lies in one of the literals. -/
def Covered (offset : Nat) (t : Text) (found : List QuotedLiteral) : Prop :=
  ∀ i c, t[i]? = some c → c.IsQuote →
    ∃ l ∈ found, l.offset ≤ offset + i ∧ offset + i < l.offset + l.text.length

/-- What lies behind the first literals has to be covered by the others. -/
theorem Covered.drop {offset : Nat} (a : Text) {b : Text} (found : List QuotedLiteral)
    {others : List QuotedLiteral} (covered : Covered offset (a ++ b) (found ++ others))
    (ends : ∀ l ∈ found, l.offset + l.text.length ≤ offset + a.length) :
    Covered (offset + a.length) b others := by
  intro i c at_i kind
  obtain ⟨l, mem, low, high⟩ := covered (a.length + i) c
    (by rw [List.getElem?_append_right (by omega)]; simpa using at_i) kind
  rcases List.mem_append.mp mem with mem | mem
  · have := ends l mem
    omega
  · exact ⟨l, mem, by omega, by omega⟩

/-- A quote that opens no literal lies in none. -/
theorem not_covered_of_length?_none {quote : CodePoint} (kind : quote.IsQuote) {t : Text}
    (none : length? (quote :: t) = none) (offset : Nat) :
    ¬ Covered offset (quote :: t) (literalsFrom offset (quote :: t)) := by
  intro covered
  obtain ⟨l, mem, low, -⟩ := covered 0 quote rfl kind
  rw [literalsFrom_cons_none none] at mem
  have := offset_le_of_mem mem
  omega

/-- **A text whose quotes all lie in literals is cut into them.** A quote behind a literal of its
kind would be the second half of a doubled quote that had to be split, and open no literal. -/
theorem lexes_of_covered {t : Text} {offset : Nat}
    (covered : Covered offset t (literalsFrom offset t)) :
    Lexes offset t (literalsFrom offset t) := by
  -- By length, because the search goes on behind a whole literal.
  obtain ⟨n, size⟩ : ∃ n, t.length ≤ n := ⟨_, Nat.le_refl _⟩
  induction n generalizing t offset with
  | zero =>
    obtain rfl := List.eq_nil_of_length_eq_zero (Nat.le_zero.mp size)
    exact .nil offset
  | succ n ih =>
    cases t with
    | nil => exact .nil offset
    | cons c t =>
      by_cases kind : c.IsQuote
      · cases search_total kind t with
        | closed body rest valid ends =>
          rw [literalsFrom_literal kind (valid.lengthFrom_eq kind ends 1 none)] at covered ⊢
          refine .literal kind valid ends (ih ?_ (by simp at size; omega))
          have whole : c :: (body ++ c :: rest) = (c :: (body ++ [c])) ++ rest := by simp
          rw [whole] at covered
          have others := Covered.drop _ [_] covered (by simp)
          simpa [literalsFrom, Nat.add_assoc] using others
        | unclosed failed =>
          have none : length? (c :: t) = none := by rw [length?_quote kind, failed]
          exact absurd covered (not_covered_of_length?_none kind none offset)
        | reopened body rest valid found failed =>
          rw [literalsFrom_literal kind (found 1 none)] at covered
          have whole : c :: (body ++ c :: c :: rest) = (c :: (body ++ [c])) ++ c :: rest := by simp
          rw [whole] at covered
          have others := Covered.drop _ [_] covered (by simp)
          have none : length? (c :: rest) = none := by rw [length?_quote kind, failed]
          refine absurd ?_ (not_covered_of_length?_none kind none (offset + body.length + 2))
          simpa [literalsFrom, Nat.add_assoc] using others
      · have none := length?_plain kind t
        rw [literalsFrom_cons_none none] at covered ⊢
        refine .plain kind (ih ?_ (Nat.le_of_succ_le_succ size))
        exact Covered.drop [c] [] covered (by simp)

end SqlTemplate
