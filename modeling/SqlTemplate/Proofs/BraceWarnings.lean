import SqlTemplate.Proofs.Nesting

/-!
# Warnings about braces

The warnings match braces by nesting, the blocks are the innermost pairs. `reports_unmatched_iff`
and `reports_nested_iff` say which braces are reported, and `warnings_agree_with_blocks` that the
two agree: a brace that belongs to no block is reported itself, or its pair has a reported brace
inside.
-/

namespace SqlTemplate

/-- A brace stands at an offset. -/
def BraceAt (t : Text) (offset : Nat) : Prop :=
  t[offset]? = some .leftBrace ∨ t[offset]? = some .rightBrace

/-- The opening brace at `start` is not closed before `offset`. -/
def StillOpen (t : Text) (start offset : Nat) : Prop :=
  start < offset ∧ t[start]? = some .leftBrace ∧ ∀ stop < offset, ¬ Matched t start stop

theorem mem_opened_take {t : Text} {start offset : Nat} :
    start ∈ (Nesting.scan (t.take offset)).opened ↔ StillOpen t start offset := by
  rw [Nesting.mem_opened_scan, StillOpen, List.getElem?_take]
  simp only [matched_take, not_and]
  by_cases bound : start < offset
  · simp only [bound, if_true, true_and]
    exact and_congr_right fun _ => ⟨fun h stop low pair => h stop pair low,
      fun h stop pair low => h stop low pair⟩
  · simp [bound]

/-- A closing brace finds nothing open if it is matched with none. -/
theorem opened_take_eq_nil_iff {t : Text} {offset : Nat}
    (closing : t[offset]? = some .rightBrace) :
    (Nesting.scan (t.take offset)).opened = [] ↔ ∀ start, ¬ Matched t start offset := by
  simp only [matched_iff, closing, true_and, not_exists]
  cases (Nesting.scan (t.take offset)).opened with
  | nil => simp
  | cons top outer => simp

namespace Matched

variable {t : Text} {start stop start' stop' : Nat}

theorem start_unique (pair : Matched t start stop) (pair' : Matched t start' stop) :
    start = start' := by
  obtain ⟨-, outer, top⟩ := matched_iff.mp pair
  obtain ⟨-, outer', top'⟩ := matched_iff.mp pair'
  rw [top] at top'
  exact (List.cons.inj top').1

/-- A brace that closes a pair finds its partner still open. -/
theorem stillOpen (pair : Matched t start stop) : StillOpen t start stop := by
  obtain ⟨-, outer, top⟩ := matched_iff.mp pair
  exact mem_opened_take.mp (top ▸ List.mem_cons_self)

theorem stop_unique (pair : Matched t start stop) (pair' : Matched t start stop') :
    stop = stop' := by
  rcases Nat.lt_trichotomy stop stop' with before | same | behind
  · exact absurd pair (pair'.stillOpen.2.2 stop before)
  · exact same
  · exact absurd pair' (pair.stillOpen.2.2 stop' behind)

end Matched

namespace InnermostPair

variable {t : Text} {start stop offset : Nat}

/-- No brace stands strictly between the two of an innermost pair. -/
theorem not_braceAt (pair : InnermostPair t start stop) (behind : start < offset)
    (before : offset < stop) : ¬ BraceAt t offset := by
  obtain ⟨front, inner, after, rfl, none, rfl, rfl⟩ := pair
  obtain ⟨k, rfl⟩ : ∃ k, offset = front.length + (k + 1) :=
    ⟨offset - front.length - 1, by omega⟩
  have within : k < inner.length := by omega
  have at_k : (front ++ .leftBrace :: (inner ++ .rightBrace :: after))[front.length + (k + 1)]? =
      some inner[k] := by
    rw [List.getElem?_append_right (Nat.le_add_right _ _), Nat.add_sub_cancel_left,
      List.getElem?_cons_succ, List.getElem?_append_left within, List.getElem?_eq_getElem within]
  have plain := Text.braces_eq_nil_iff.mp none inner[k] (List.getElem_mem within)
  rintro (brace | brace) <;>
    · rw [at_k, Option.some.injEq] at brace
      simp [brace] at plain

end InnermostPair

/-- A matched pair is an innermost one, or an opening brace stands inside. -/
theorem Matched.innermost_or {t : Text} {start stop : Nat} (pair : Matched t start stop) :
    InnermostPair t start stop ∨
      ∃ offset, start < offset ∧ offset < stop ∧ t[offset]? = some .leftBrace := by
  obtain ⟨before, inner, after, whole, balanced, rfl, rfl⟩ := pair
  by_cases none : inner.braces = []
  · exact .inl ⟨before, inner, after, whole, none, rfl, rfl⟩
  · obtain ⟨c, mem, kind⟩ := List.mem_filterMap.mp (balanced.opening_mem none)
    obtain rfl := CodePoint.brace?_eq_opening.mp kind
    obtain ⟨x, y, rfl⟩ := List.append_of_mem mem
    refine .inr ⟨before.length + (x.length + 1), by omega, ?_, ?_⟩
    · simp only [List.length_append, List.length_cons]
      omega
    · rw [whole, List.getElem?_append_right (Nat.le_add_right _ _), Nat.add_sub_cancel_left]
      simp

namespace Warning

theorem kind_eq_nested_iff {w : Warning} :
    w.kind = "nested_block" ↔ ∃ offset enclosing, w = .nestedBlock offset enclosing := by
  cases w with
  | nestedBlock offset enclosing => exact iff_of_true rfl ⟨offset, enclosing, rfl⟩
  | unopened | unclosed | placeholderInLiteral =>
    refine iff_of_false ?_ (by simp)
    simp only [kind]
    decide

theorem kind_eq_unmatched_iff {w : Warning} :
    w.kind = "unmatched_brace" ↔ ∃ offset, w = .unopened offset ∨ w = .unclosed offset := by
  cases w with
  | unopened offset => exact iff_of_true rfl ⟨offset, .inl rfl⟩
  | unclosed offset => exact iff_of_true rfl ⟨offset, .inr rfl⟩
  | nestedBlock | placeholderInLiteral =>
    refine iff_of_false ?_ (by simp)
    simp only [kind]
    decide

end Warning

namespace Template

/-- A warning of a kind is given at an offset. -/
def Reports (t : Text) (kind : Text) (offset : Nat) : Prop :=
  ∃ w ∈ warnings t, w.kind = kind ∧ w.offset = offset

/-- An offset belongs to a block, braces included. -/
def InBlock (t : Text) (offset : Nat) : Prop :=
  ∃ s ∈ blocks t, s.start ≤ offset ∧ offset < s.stop

variable {t : Text} {offset : Nat}

theorem of_mem_literalWarnings {w : Warning} (mem : w ∈ literalWarnings t) :
    ∃ offset token, w = .placeholderInLiteral offset token := by
  obtain ⟨literal, -, mem⟩ := List.mem_flatMap.mp mem
  obtain ⟨slot, -, rfl⟩ := List.mem_map.mp mem
  exact ⟨_, _, rfl⟩

theorem mem_warnings {w : Warning} :
    w ∈ warnings t ↔ Nesting.Flaw t w ∨
      (∃ start ∈ (Nesting.scan t).opened, w = .unclosed start) ∨ w ∈ literalWarnings t := by
  simp only [warnings, List.mem_mergeSort, braceWarnings, List.mem_append, List.mem_reverse,
    List.mem_map, Nesting.mem_warnings_scan, or_assoc, eq_comm]

theorem unclosed_mem_warnings :
    .unclosed offset ∈ warnings t ↔
      t[offset]? = some .leftBrace ∧ ∀ stop, ¬ Matched t offset stop := by
  rw [mem_warnings, ← Nesting.mem_opened_scan]
  constructor
  · rintro (flaw | ⟨start, opened, same⟩ | literal)
    · nomatch flaw
    · exact Warning.unclosed.inj same ▸ opened
    · obtain ⟨_, _, same⟩ := of_mem_literalWarnings literal
      nomatch same
  · exact fun opened => .inr (.inl ⟨offset, opened, rfl⟩)

theorem unopened_mem_warnings :
    .unopened offset ∈ warnings t ↔
      t[offset]? = some .rightBrace ∧ ∀ start, ¬ Matched t start offset := by
  rw [mem_warnings]
  constructor
  · rintro (flaw | ⟨start, -, same⟩ | literal)
    · cases flaw with
      | unopened closing none => exact ⟨closing, (opened_take_eq_nil_iff closing).mp none⟩
    · nomatch same
    · obtain ⟨_, _, same⟩ := of_mem_literalWarnings literal
      nomatch same
  · rintro ⟨closing, alone⟩
    exact .inl (.unopened closing ((opened_take_eq_nil_iff closing).mpr alone))

theorem nestedBlock_mem_warnings {enclosing : Nat} :
    .nestedBlock offset enclosing ∈ warnings t ↔ t[offset]? = some .leftBrace ∧
      (Nesting.scan (t.take offset)).opened.head? = some enclosing := by
  rw [mem_warnings]
  constructor
  · rintro (flaw | ⟨start, -, same⟩ | literal)
    · cases flaw with
      | nested opening top => exact ⟨opening, top⟩
    · nomatch same
    · obtain ⟨_, _, same⟩ := of_mem_literalWarnings literal
      nomatch same
  · exact fun ⟨opening, top⟩ => .inl (.nested opening top)

/-- **The unmatched braces** are those that are matched with none. -/
theorem reports_unmatched_iff :
    Reports t "unmatched_brace" offset ↔
      (t[offset]? = some .leftBrace ∧ ∀ stop, ¬ Matched t offset stop) ∨
        (t[offset]? = some .rightBrace ∧ ∀ start, ¬ Matched t start offset) := by
  rw [← unclosed_mem_warnings, ← unopened_mem_warnings]
  constructor
  · rintro ⟨w, mem, kind, rfl⟩
    obtain ⟨offset, rfl | rfl⟩ := Warning.kind_eq_unmatched_iff.mp kind
    · exact .inr mem
    · exact .inl mem
  · rintro (mem | mem)
    · exact ⟨_, mem, rfl, rfl⟩
    · exact ⟨_, mem, rfl, rfl⟩

/-- **The nested openings** are those under a brace that is still open. -/
theorem reports_nested_iff :
    Reports t "nested_block" offset ↔
      t[offset]? = some .leftBrace ∧ ∃ start, StillOpen t start offset := by
  have enclosed : (∃ enclosing, (Nesting.scan (t.take offset)).opened.head? = some enclosing) ↔
      ∃ start, StillOpen t start offset := by
    simp only [← mem_opened_take]
    cases (Nesting.scan (t.take offset)).opened with
    | nil => simp
    | cons top outer => exact ⟨fun _ => ⟨top, List.mem_cons_self⟩, fun _ => ⟨top, rfl⟩⟩
  rw [← enclosed]
  constructor
  · rintro ⟨w, mem, kind, rfl⟩
    obtain ⟨offset, enclosing, rfl⟩ := Warning.kind_eq_nested_iff.mp kind
    obtain ⟨opening, top⟩ := nestedBlock_mem_warnings.mp mem
    exact ⟨opening, enclosing, top⟩
  · rintro ⟨opening, enclosing, top⟩
    exact ⟨_, nestedBlock_mem_warnings.mpr ⟨opening, top⟩, rfl, rfl⟩

/-- A brace in a block is one of the two that bound it. -/
theorem inBlock_iff_of_braceAt (brace : BraceAt t offset) :
    InBlock t offset ↔
      ∃ start stop, InnermostPair t start stop ∧ (offset = start ∨ offset = stop) := by
  simp only [InBlock, mem_blocks]
  constructor
  · rintro ⟨_, ⟨start, stop, pair, rfl⟩, low, high⟩
    refine ⟨start, stop, pair, ?_⟩
    rcases Nat.lt_or_eq_of_le low with behind | same
    · rcases Nat.lt_or_eq_of_le (Nat.le_of_lt_succ high) with before | same
      · exact absurd brace (pair.not_braceAt behind before)
      · exact .inr same
    · exact .inl same.symm
  · rintro ⟨start, stop, pair, ends⟩
    have order := pair.matched.lt
    refine ⟨⟨start, stop + 1⟩, ⟨start, stop, pair, rfl⟩, ?_⟩
    simp only
    omega

theorem not_inBlock_of_unmatched (unmatched : Reports t "unmatched_brace" offset) :
    ¬ InBlock t offset := by
  have kinds := reports_unmatched_iff.mp unmatched
  have brace : BraceAt t offset := kinds.imp And.left And.left
  rw [inBlock_iff_of_braceAt brace]
  rintro ⟨start, stop, pair, rfl | rfl⟩
  · rcases kinds with ⟨-, none⟩ | ⟨closing, -⟩
    · exact none stop pair.matched
    · rw [pair.matched.opening, Option.some.injEq] at closing
      exact CodePoint.leftBrace_ne_rightBrace closing
  · rcases kinds with ⟨opening, -⟩ | ⟨-, none⟩
    · rw [pair.matched.closing, Option.some.injEq] at opening
      exact CodePoint.rightBrace_ne_leftBrace opening
    · exact none start pair.matched

/-- A pair with a nested opening inside is no block. -/
theorem not_inBlock_of_nested {start stop inner : Nat} (pair : Matched t start stop)
    (ends : offset = start ∨ offset = stop) (behind : start < inner) (before : inner < stop)
    (nested : Reports t "nested_block" inner) : ¬ InBlock t offset := by
  have brace : BraceAt t offset := by
    rcases ends with rfl | rfl
    · exact .inl pair.opening
    · exact .inr pair.closing
  have opening := (reports_nested_iff.mp nested).1
  rw [inBlock_iff_of_braceAt brace]
  rintro ⟨start', stop', pair', ends'⟩
  have same : start = start' ∧ stop = stop' := by
    rcases ends with rfl | rfl <;> rcases ends' with rfl | rfl
    · exact ⟨rfl, pair.stop_unique pair'.matched⟩
    · have clash := pair.opening
      rw [pair'.matched.closing, Option.some.injEq] at clash
      exact absurd clash CodePoint.rightBrace_ne_leftBrace
    · have clash := pair.closing
      rw [pair'.matched.opening, Option.some.injEq] at clash
      exact absurd clash CodePoint.leftBrace_ne_rightBrace
    · exact ⟨pair.start_unique pair'.matched, rfl⟩
  obtain ⟨rfl, rfl⟩ := same
  exact pair'.not_braceAt behind before (.inl opening)

/-- A brace that opens in a matched pair comes up as nested. -/
theorem nested_of_matched {start stop inner : Nat} (pair : Matched t start stop)
    (behind : start < inner) (before : inner < stop) (opening : t[inner]? = some .leftBrace) :
    Reports t "nested_block" inner := by
  refine reports_nested_iff.mpr ⟨opening, start, behind, pair.opening, ?_⟩
  intro stop' low pair'
  have same := pair.stop_unique pair'
  omega

/-- **A brace outside of the blocks** is reported, or a brace inside its pair is. -/
theorem not_inBlock_iff (brace : BraceAt t offset) :
    ¬ InBlock t offset ↔ Reports t "unmatched_brace" offset ∨
      ∃ start stop, Matched t start stop ∧ (offset = start ∨ offset = stop) ∧
        ∃ inner, start < inner ∧ inner < stop ∧ Reports t "nested_block" inner := by
  constructor
  · intro outside
    by_cases unmatched : Reports t "unmatched_brace" offset
    · exact .inl unmatched
    obtain ⟨start, stop, pair, ends⟩ :
        ∃ start stop, Matched t start stop ∧ (offset = start ∨ offset = stop) := by
      rw [reports_unmatched_iff, not_or, not_and, not_and] at unmatched
      simp only [not_forall, not_not] at unmatched
      rcases brace with opening | closing
      · obtain ⟨stop, pair⟩ := unmatched.1 opening
        exact ⟨offset, stop, pair, .inl rfl⟩
      · obtain ⟨start, pair⟩ := unmatched.2 closing
        exact ⟨start, offset, pair, .inr rfl⟩
    refine .inr ⟨start, stop, pair, ends, ?_⟩
    rcases pair.innermost_or with innermost | ⟨inner, behind, before, opening⟩
    · exact absurd ((inBlock_iff_of_braceAt brace).mpr ⟨start, stop, innermost, ends⟩) outside
    · exact ⟨inner, behind, before, nested_of_matched pair behind before opening⟩
  · rintro (unmatched | ⟨start, stop, pair, ends, inner, behind, before, nested⟩)
    · exact not_inBlock_of_unmatched unmatched
    · exact not_inBlock_of_nested pair ends behind before nested

/-- A nested opening is in no block, or the brace above it is in none. -/
theorem exists_not_inBlock_of_nested (nested : Reports t "nested_block" offset) :
    ∃ start, BraceAt t start ∧ ¬ InBlock t start := by
  obtain ⟨opening, start, behind, above, unclosed⟩ := reports_nested_iff.mp nested
  refine ⟨start, .inl above, ?_⟩
  rw [inBlock_iff_of_braceAt (.inl above)]
  rintro ⟨start', stop, pair, rfl | rfl⟩
  · rcases Nat.lt_trichotomy stop offset with low | rfl | high
    · exact unclosed stop low pair.matched
    · rw [pair.matched.closing, Option.some.injEq] at opening
      exact CodePoint.rightBrace_ne_leftBrace opening
    · exact pair.not_braceAt behind high (.inl opening)
  · rw [pair.matched.closing, Option.some.injEq] at above
    exact CodePoint.rightBrace_ne_leftBrace above

/-- **The warnings agree with the blocks.** A brace belongs to no block exactly if it is reported as
unmatched or its pair has a nested opening inside. So no brace is warned about exactly if every
brace belongs to a block, and an unmatched one never bounds a block. -/
theorem warnings_agree_with_blocks (t : Text) :
    (∀ offset, BraceAt t offset → (¬ InBlock t offset ↔ Reports t "unmatched_brace" offset ∨
      ∃ start stop, Matched t start stop ∧ (offset = start ∨ offset = stop) ∧
        ∃ inner, start < inner ∧ inner < stop ∧ Reports t "nested_block" inner)) ∧
    ((∀ offset, ¬ Reports t "unmatched_brace" offset ∧ ¬ Reports t "nested_block" offset) ↔
      ∀ offset, BraceAt t offset → InBlock t offset) ∧
    ∀ offset, Reports t "unmatched_brace" offset →
      ∀ s ∈ blocks t, offset ≠ s.start ∧ offset + 1 ≠ s.stop := by
  refine ⟨fun offset brace => not_inBlock_iff brace, ⟨?_, ?_⟩, ?_⟩
  · intro silent offset brace
    by_contra outside
    rcases (not_inBlock_iff brace).mp outside with
      unmatched | ⟨start, stop, -, -, inner, -, -, nested⟩
    · exact (silent offset).1 unmatched
    · exact (silent inner).2 nested
  · intro covered offset
    refine ⟨fun unmatched => ?_, fun nested => ?_⟩
    · have brace : BraceAt t offset :=
        (reports_unmatched_iff.mp unmatched).imp And.left And.left
      exact not_inBlock_of_unmatched unmatched (covered offset brace)
    · obtain ⟨start, brace, outside⟩ := exists_not_inBlock_of_nested nested
      exact outside (covered start brace)
  · intro offset unmatched s mem
    have outside := not_inBlock_of_unmatched unmatched
    obtain ⟨start, stop, pair, rfl⟩ := mem_blocks.mp mem
    have order := pair.matched.lt
    refine ⟨fun same => outside ⟨_, mem, ?_⟩, fun same => outside ⟨_, mem, ?_⟩⟩
    · simp only at same ⊢
      omega
    · simp only at same ⊢
      omega

end Template

end SqlTemplate
