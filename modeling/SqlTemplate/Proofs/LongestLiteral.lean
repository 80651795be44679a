import SqlTemplate.Proofs.Lexing

/-!
# The longest literals

A search for the closing quote goes as far as it can, with the last doubled quote to fall back on.
So it finds the longest literal that a text begins with, if there is one (`length?_eq_some_iff`,
`length?_eq_none_iff`), and the literals of a text are its only reading from left to right into
longest literals (`longestReading_iff`).
-/

namespace SqlTemplate

namespace QuotedLiteral

/-- A body between two quotes of one kind. -/
def IsLiteral (t : Text) : Prop :=
  ∃ (quote : CodePoint) (body : Text),
    quote.IsQuote ∧ Quotable quote body ∧ t = quote :: (body ++ [quote])

/-- The longest literal that a text begins with. -/
structure Longest (t l : Text) : Prop where
  literal : IsLiteral l
  begins : l <+: t
  longest : ∀ l', IsLiteral l' → l' <+: t → l'.length ≤ l.length

/-- What the search finds is the fallback, or a body and its closing quote. -/
theorem lengthFrom_sound {quote : CodePoint} {read n : Nat} {fallback : Option Nat} {t : Text}
    (found : lengthFrom quote read fallback t = some n) :
    fallback = some n ∨ ∃ body rest : Text,
      Quotable quote body ∧ t = body ++ quote :: rest ∧ n = read + body.length + 1 := by
  fun_induction lengthFrom quote read fallback t with
  | case1 => exact .inl found
  | case2 read fallback =>
    exact .inr ⟨[], [], .nil, rfl, (Option.some.inj found).symm⟩
  | case3 read fallback rest ih =>
    rcases ih found with split | ⟨body, after, valid, rfl, rfl⟩
    · exact .inr ⟨[], quote :: rest, .nil, rfl, (Option.some.inj split).symm⟩
    · refine .inr ⟨quote :: quote :: body, after, .doubled valid, rfl, ?_⟩
      simp only [List.length_cons]
      omega
  | case4 read fallback d rest other =>
    exact .inr ⟨[], d :: rest, .nil, rfl, (Option.some.inj found).symm⟩
  | case5 => exact .inl found
  | case6 read fallback d rest other ih =>
    rcases ih found with before | ⟨body, after, valid, rfl, rfl⟩
    · exact .inl before
    · refine .inr ⟨_ :: d :: body, after, .escape d valid, rfl, ?_⟩
      simp only [List.length_cons]
      omega
  | case7 read fallback c rest other unescaped ih =>
    rcases ih found with before | ⟨body, after, valid, rfl, rfl⟩
    · exact .inl before
    · refine .inr ⟨c :: body, after, .plain other unescaped valid, rfl, ?_⟩
      simp only [List.length_cons]
      omega

/-- A fallback is given up only for something longer. -/
theorem fallback_le_lengthFrom (quote : CodePoint) {read m : Nat} {fallback : Option Nat}
    (given : fallback = some m) (early : m ≤ read) (t : Text) :
    ∃ n, lengthFrom quote read fallback t = some n ∧ m ≤ n := by
  fun_induction lengthFrom quote read fallback t generalizing m with
  | case1 => exact ⟨m, given, Nat.le_refl m⟩
  | case2 read => exact ⟨read + 1, rfl, by omega⟩
  | case3 read fallback rest ih =>
    obtain ⟨n, found, later⟩ := ih rfl (Nat.le_succ _)
    exact ⟨n, found, by omega⟩
  | case4 read => exact ⟨read + 1, rfl, by omega⟩
  | case5 => exact ⟨m, given, Nat.le_refl m⟩
  | case6 read fallback d rest other ih => exact ih given (by omega)
  | case7 read fallback c rest other unescaped ih => exact ih given (by omega)

/-- **The search finds a literal at least as long as any.** -/
theorem le_lengthFrom {quote : CodePoint} (kind : quote.IsQuote) {body : Text}
    (valid : Quotable quote body) (rest : Text) (read : Nat) (fallback : Option Nat) :
    ∃ n, lengthFrom quote read fallback (body ++ quote :: rest) = some n ∧
      read + body.length + 1 ≤ n := by
  induction valid generalizing read fallback with
  | nil =>
    cases rest with
    | nil => exact ⟨read + 1, by simp [lengthFrom], Nat.le_refl _⟩
    | cons d rest =>
      by_cases double : d = quote
      · have early : read + 1 ≤ read + 2 := Nat.le_succ _
        obtain ⟨n, found, later⟩ := fallback_le_lengthFrom quote rfl early rest
        exact ⟨n, by simpa [lengthFrom, double] using found, later⟩
      · exact ⟨read + 1, by simp [lengthFrom, double], Nat.le_refl _⟩
  | @plain c body other unescaped _ ih =>
    obtain ⟨n, found, later⟩ := ih (read + 1) fallback
    refine ⟨n, ?_, by simp only [List.length_cons]; omega⟩
    rw [List.cons_append, lengthFrom.eq_def]
    simpa only [other, unescaped, if_false] using found
  | @escape c body _ ih =>
    obtain ⟨n, found, later⟩ := ih (read + 2) fallback
    refine ⟨n, ?_, by simp only [List.length_cons]; omega⟩
    rw [List.cons_append, List.cons_append, lengthFrom.eq_def]
    simpa only [kind.ne_backslash.symm, if_false, if_true] using found
  | @doubled body _ ih =>
    obtain ⟨n, found, later⟩ := ih (read + 2) (some (read + 1))
    refine ⟨n, ?_, by simp only [List.length_cons]; omega⟩
    rw [List.cons_append, List.cons_append, lengthFrom.eq_def]
    simpa only [if_true] using found

/-- A text that begins with a literal has a length to begin with. -/
theorem le_length? {t l : Text} (literal : IsLiteral l) (begins : l <+: t) :
    ∃ n, length? t = some n ∧ l.length ≤ n := by
  obtain ⟨quote, body, kind, valid, rfl⟩ := literal
  obtain ⟨rest, rfl⟩ := begins
  obtain ⟨n, found, later⟩ := le_lengthFrom kind valid rest 1 none
  refine ⟨n, ?_, ?_⟩
  · simpa [length?_quote kind] using found
  · simp only [List.length_cons, List.length_append, List.length_nil]
    omega

/-- **The length is that of the longest literal.** -/
theorem length?_eq_some_iff {t : Text} {n : Nat} :
    length? t = some n ↔ ∃ l, Longest t l ∧ l.length = n := by
  have sound {m : Nat} (found : length? t = some m) : ∃ l, Longest t l ∧ l.length = m := by
    cases t with
    | nil => simp [length?] at found
    | cons quote t =>
      by_cases kind : quote.IsQuote
      · have search : lengthFrom quote 1 none t = some m := by rwa [length?_quote kind] at found
        rcases lengthFrom_sound search with none | ⟨body, rest, valid, rfl, rfl⟩
        · nomatch none
        · have length : (quote :: (body ++ [quote])).length = 1 + body.length + 1 := by
            simp only [List.length_cons, List.length_append, List.length_nil]
            omega
          have literal : IsLiteral (quote :: (body ++ [quote])) := ⟨quote, body, kind, valid, rfl⟩
          refine ⟨quote :: (body ++ [quote]), ⟨literal, ⟨rest, by simp⟩, ?_⟩, length⟩
          intro l' literal' begins
          obtain ⟨n', found', bound⟩ := le_length? literal' begins
          rw [found, Option.some.injEq] at found'
          omega
      · rw [length?_plain kind] at found
        nomatch found
  constructor
  · exact sound
  · rintro ⟨l, longest, rfl⟩
    obtain ⟨n, found, bound⟩ := le_length? longest.literal longest.begins
    obtain ⟨l', longest', rfl⟩ := sound found
    have same : l'.length = l.length :=
      Nat.le_antisymm (longest.longest l' longest'.literal longest'.begins) bound
    rw [found, same]

theorem length?_eq_none_iff {t : Text} :
    length? t = none ↔ ∀ l, IsLiteral l → ¬ l <+: t := by
  constructor
  · intro none l literal begins
    obtain ⟨n, found, -⟩ := le_length? literal begins
    simp [none] at found
  · intro without
    cases found : length? t with
    | none => rfl
    | some n =>
      obtain ⟨l, longest, -⟩ := length?_eq_some_iff.mp found
      exact absurd longest.begins (without l longest.literal)

theorem IsLiteral.ne_nil {l : Text} (literal : IsLiteral l) : l ≠ [] := by
  obtain ⟨quote, body, -, -, rfl⟩ := literal
  exact List.cons_ne_nil _ _

end QuotedLiteral

open QuotedLiteral

/-- A text that begins at `offset`, read from left to right: at every place the longest literal that
begins there, or else a code point that is passed over. -/
inductive LongestReading : Nat → Text → List QuotedLiteral → Prop
  | nil (offset : Nat) : LongestReading offset [] []
  | passed {offset : Nat} {c : CodePoint} {rest : Text} {found : List QuotedLiteral} :
    (∀ l, IsLiteral l → ¬ l <+: c :: rest) → LongestReading (offset + 1) rest found →
    LongestReading offset (c :: rest) found
  | literal {offset : Nat} {l rest : Text} {found : List QuotedLiteral} :
    Longest (l ++ rest) l → LongestReading (offset + l.length) rest found →
    LongestReading offset (l ++ rest) (⟨offset, l⟩ :: found)

/-- The search takes the longest literal off the front. -/
theorem literalsFrom_longest {l rest : Text} (longest : Longest (l ++ rest) l) (offset : Nat) :
    literalsFrom offset (l ++ rest) = ⟨offset, l⟩ :: literalsFrom (offset + l.length) rest := by
  have found := length?_eq_some_iff.mpr ⟨l, longest, rfl⟩
  cases l with
  | nil => exact absurd rfl longest.literal.ne_nil
  | cons c l =>
    rw [List.cons_append] at found ⊢
    have next : offset + l.length + 1 = offset + (c :: l).length := by simp [Nat.add_assoc]
    rw [literalsFrom_cons_some found, next, List.take_succ_cons, List.take_left, List.drop_left]

theorem longestReading_literalsFrom (t : Text) (offset : Nat) :
    LongestReading offset t (literalsFrom offset t) := by
  -- By length, because the reading goes on behind a whole literal.
  induction size : t.length using Nat.strongRecOn generalizing t offset with
  | ind n ih =>
    cases t with
    | nil => exact .nil offset
    | cons c t =>
      cases found : length? (c :: t) with
      | none =>
        rw [literalsFrom_cons_none found]
        refine .passed (length?_eq_none_iff.mp found) (ih t.length ?_ t (offset + 1) rfl)
        rw [← size, List.length_cons]
        exact Nat.lt_succ_self _
      | some m =>
        obtain ⟨l, longest, -⟩ := length?_eq_some_iff.mp found
        obtain ⟨rest, split⟩ := longest.begins
        rw [← split] at longest ⊢
        rw [literalsFrom_longest longest]
        refine .literal longest (ih rest.length ?_ rest (offset + l.length) rfl)
        have positive := List.length_pos_iff.mpr longest.literal.ne_nil
        rw [← size, ← split, List.length_append]
        omega

/-- **The literals of a text are its reading into longest literals**, and there is no other one. -/
theorem longestReading_iff {offset : Nat} {t : Text} {found : List QuotedLiteral} :
    LongestReading offset t found ↔ literalsFrom offset t = found := by
  constructor
  · intro reading
    induction reading with
    | nil => rfl
    | passed without _ ih => rw [literalsFrom_cons_none (length?_eq_none_iff.mpr without), ih]
    | literal longest _ ih => rw [literalsFrom_longest longest, ih]
  · rintro rfl
    exact longestReading_literalsFrom t offset

end SqlTemplate
