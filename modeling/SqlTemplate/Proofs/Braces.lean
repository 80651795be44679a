import SqlTemplate.Template.Block

/-!
# Innermost pairs of braces

The blocks that a text is cut into are its innermost pairs of braces: `mem_blocks` says which spans
they are. Whether an offset lies in a block depends on two braces only, the last one before it and
the first one behind it (`enclosed_iff`).
-/

namespace SqlTemplate

namespace CodePoint

def leftBrace : CodePoint := CodePoint.ofChar '\x7b'

def rightBrace : CodePoint := CodePoint.ofChar '\x7d'

@[simp] theorem brace?_leftBrace : leftBrace.brace? = some .opening := rfl

@[simp] theorem brace?_rightBrace : rightBrace.brace? = some .closing := rfl

theorem leftBrace_ne_rightBrace : leftBrace ≠ rightBrace := by decide

theorem rightBrace_ne_leftBrace : rightBrace ≠ leftBrace := by decide

theorem brace?_eq_opening {c : CodePoint} : c.brace? = some .opening ↔ c = leftBrace := by
  constructor
  · intro h
    unfold brace? at h
    split at h
    · next eq => exact eq
    · split at h <;> simp at h
  · rintro rfl
    rfl

theorem brace?_eq_closing {c : CodePoint} : c.brace? = some .closing ↔ c = rightBrace := by
  constructor
  · intro h
    unfold brace? at h
    split at h
    · simp at h
    · split at h
      · next eq => exact eq
      · simp at h
  · rintro rfl
    rfl

end CodePoint

/-- The braces of a text, in order. -/
def Text.braces (t : Text) : List Brace :=
  t.filterMap CodePoint.brace?

namespace Text

@[simp] theorem braces_nil : braces [] = [] := rfl

@[simp] theorem braces_append (a b : Text) : braces (a ++ b) = braces a ++ braces b := by
  simp [braces]

@[simp] theorem braces_leftBrace (t : Text) :
    braces (.leftBrace :: t) = .opening :: braces t := rfl

@[simp] theorem braces_rightBrace (t : Text) :
    braces (.rightBrace :: t) = .closing :: braces t := rfl

theorem braces_cons (c : CodePoint) (t : Text) : braces (c :: t) = c.brace?.toList ++ braces t := by
  cases h : c.brace? <;> simp [braces, h]

theorem braces_cons_of_none {c : CodePoint} (h : c.brace? = none) (t : Text) :
    braces (c :: t) = braces t := by
  simp [braces, h]

theorem braces_eq_nil_iff {t : Text} : braces t = [] ↔ ∀ c ∈ t, c.brace? = none := by
  simp [braces]

theorem braces_take_of_nil {t : Text} (h : braces t = []) (n : Nat) : braces (t.take n) = [] :=
  braces_eq_nil_iff.mpr fun c hc => braces_eq_nil_iff.mp h c (List.mem_of_mem_take hc)

theorem braces_drop_of_nil {t : Text} (h : braces t = []) (n : Nat) : braces (t.drop n) = [] :=
  braces_eq_nil_iff.mpr fun c hc => braces_eq_nil_iff.mp h c (List.mem_of_mem_drop hc)

end Text

/-- The first brace of a text is a closing one, at `stop`. -/
def Closes (t : Text) (stop : Nat) : Prop :=
  ∃ inner after : Text, t = inner ++ .rightBrace :: after ∧ inner.braces = [] ∧ inner.length = stop

/-- An opening brace at `start` and a closing one at `stop`, with no brace between them. -/
def InnermostPair (t : Text) (start stop : Nat) : Prop :=
  ∃ before inner after : Text, t = before ++ .leftBrace :: (inner ++ .rightBrace :: after) ∧
    inner.braces = [] ∧ before.length = start ∧ start + inner.length + 1 = stop

theorem closes_cons {c : CodePoint} {t : Text} {stop : Nat} :
    Closes (c :: t) stop ↔
      c = .rightBrace ∧ stop = 0 ∨
        c.brace? = none ∧ ∃ stop', Closes t stop' ∧ stop = stop' + 1 := by
  constructor
  · rintro ⟨inner, after, whole, none, rfl⟩
    cases inner with
    | nil => exact .inl ⟨(List.cons.inj whole).1, rfl⟩
    | cons d inner =>
      obtain ⟨rfl, rfl⟩ := List.cons.inj whole
      have plain := Text.braces_eq_nil_iff.mp none
      refine .inr ⟨plain c List.mem_cons_self, inner.length, ⟨inner, after, rfl, ?_, rfl⟩, rfl⟩
      exact Text.braces_eq_nil_iff.mpr fun d hd => plain d (List.mem_cons_of_mem _ hd)
  · rintro (⟨rfl, rfl⟩ | ⟨plain, _, ⟨inner, after, rfl, none, rfl⟩, rfl⟩)
    · exact ⟨[], t, rfl, rfl, rfl⟩
    · exact ⟨c :: inner, after, rfl, by rw [Text.braces_cons_of_none plain, none], rfl⟩

theorem innermostPair_cons {c : CodePoint} {t : Text} {start stop : Nat} :
    InnermostPair (c :: t) start stop ↔
      (∃ start' stop', InnermostPair t start' stop' ∧ start = start' + 1 ∧ stop = stop' + 1) ∨
        c = .leftBrace ∧ start = 0 ∧ ∃ stop', Closes t stop' ∧ stop = stop' + 1 := by
  constructor
  · rintro ⟨before, inner, after, whole, none, rfl, rfl⟩
    cases before with
    | nil =>
      obtain ⟨rfl, rfl⟩ := List.cons.inj whole
      exact .inr ⟨rfl, rfl, inner.length, ⟨inner, after, rfl, none, rfl⟩, by simp⟩
    | cons d before =>
      obtain ⟨rfl, rfl⟩ := List.cons.inj whole
      refine .inl ⟨before.length, _, ⟨before, inner, after, rfl, none, rfl, rfl⟩, rfl, ?_⟩
      simp only [List.length_cons]
      omega
  · rintro (⟨_, _, ⟨before, inner, after, rfl, none, rfl, rfl⟩, rfl, rfl⟩ |
      ⟨rfl, rfl, _, ⟨inner, after, rfl, none, rfl⟩, rfl⟩)
    · exact ⟨c :: before, inner, after, rfl, none, rfl, by omega⟩
    · exact ⟨[], inner, after, rfl, none, rfl, by omega⟩

theorem not_innermostPair_nil {start stop : Nat} : ¬ InnermostPair [] start stop := by
  rintro ⟨before, inner, after, whole, -⟩
  simp at whole

theorem not_closes_nil {stop : Nat} : ¬ Closes [] stop := by
  rintro ⟨inner, after, whole, -⟩
  simp at whole

namespace Cut

theorem spans_outside (items : List (CodePoint × Nat))
    (fragments : List (Fragment (CodePoint × Nat))) :
    (items.map Fragment.outside ++ fragments).filterMap Fragment.span? =
      fragments.filterMap Fragment.span? := by
  have outside : items.filterMap (Fragment.span? ∘ Fragment.outside) = [] :=
    List.filterMap_eq_nil_iff.mpr fun _ _ => rfl
  rw [List.filterMap_append, List.filterMap_map, outside, List.nil_append]

theorem spans_settled (cut : Cut (CodePoint × Nat)) :
    cut.settled.filterMap Fragment.span? = cut.fragments.filterMap Fragment.span? := by
  unfold settled
  split
  · rfl
  · rw [spans_outside]
    exact List.filterMap_cons_none rfl

/-- Where the pending closing brace stands. -/
def awaited (cut : Cut (CodePoint × Nat)) : Option Nat :=
  cut.pending.map fun waiting => waiting.2.2

def spans (cut : Cut (CodePoint × Nat)) : List Span :=
  cut.fragments.filterMap Fragment.span?

section
variable (cut : Cut (CodePoint × Nat)) (offset : Nat) {c : CodePoint}

theorem prepend_plain (plain : c.brace? = none) :
    (cut.prepend (fun item => item.1.brace?) (c, offset)).spans = cut.spans ∧
      (cut.prepend (fun item => item.1.brace?) (c, offset)).awaited = cut.awaited := by
  obtain ⟨_ | ⟨inner, closing⟩, fragments⟩ := cut
  · refine ⟨?_, by simp [prepend, plain, awaited]⟩
    simp only [prepend, plain, spans]
    exact List.filterMap_cons_none rfl
  · simp [prepend, plain, spans, awaited]

theorem prepend_closing (closing : c.brace? = some .closing) :
    (cut.prepend (fun item => item.1.brace?) (c, offset)).spans = cut.spans ∧
      (cut.prepend (fun item => item.1.brace?) (c, offset)).awaited = some offset := by
  simp [prepend, closing, spans, awaited, spans_settled]

theorem prepend_opening (opening : c.brace? = some .opening) :
    (cut.prepend (fun item => item.1.brace?) (c, offset)).spans =
        (cut.awaited.map fun stop => ⟨offset, stop + 1⟩).toList ++ cut.spans ∧
      (cut.prepend (fun item => item.1.brace?) (c, offset)).awaited = none := by
  obtain ⟨_ | ⟨inner, closing⟩, fragments⟩ := cut
  · refine ⟨?_, by simp [prepend, opening, awaited]⟩
    simp only [prepend, opening, spans]
    exact List.filterMap_cons_none rfl
  · simp [prepend, opening, spans, awaited, Fragment.span?]

end

/-- The span of an innermost pair in a text that begins at `offset`. -/
def PairAt (offset : Nat) (t : Text) (s : Span) : Prop :=
  ∃ start stop, InnermostPair t start stop ∧ s = ⟨offset + start, offset + stop + 1⟩

theorem pairAt_cons {offset : Nat} {c : CodePoint} {t : Text} {s : Span} :
    PairAt offset (c :: t) s ↔ PairAt (offset + 1) t s ∨
      c = .leftBrace ∧ ∃ stop, Closes t stop ∧ s = ⟨offset, offset + 1 + stop + 1⟩ := by
  constructor
  · rintro ⟨start, stop, pair, rfl⟩
    rcases innermostPair_cons.mp pair with
      ⟨start, stop, inner, rfl, rfl⟩ | ⟨left, rfl, stop, closes, rfl⟩
    · exact .inl ⟨start, stop, inner, by simp only [Span.mk.injEq]; omega⟩
    · exact .inr ⟨left, stop, closes, by simp only [Span.mk.injEq]; omega⟩
  · rintro (⟨start, stop, pair, rfl⟩ | ⟨left, stop, closes, rfl⟩)
    · refine ⟨start + 1, stop + 1, innermostPair_cons.mpr (.inl ⟨start, stop, pair, rfl, rfl⟩), ?_⟩
      simp only [Span.mk.injEq]
      omega
    · refine ⟨0, stop + 1, innermostPair_cons.mpr (.inr ⟨left, rfl, stop, closes, rfl⟩), ?_⟩
      simp only [Span.mk.injEq]
      omega

/-- What a cut of the items from `offset` on knows of the text there: its spans are the innermost
pairs, and a closing brace is awaited exactly if it is the first one. -/
structure Reads (cut : Cut (CodePoint × Nat)) (offset : Nat) (t : Text) : Prop where
  spans : ∀ s, s ∈ cut.spans ↔ PairAt offset t s
  awaited : ∀ p, cut.awaited = some p ↔ ∃ stop, Closes t stop ∧ p = offset + stop

theorem reads_empty (offset : Nat) : Reads ⟨none, []⟩ offset [] where
  spans s := by simp [Cut.spans, PairAt, not_innermostPair_nil]
  awaited p := by simp [Cut.awaited, not_closes_nil]

/-- One code point more, from the right. Only an opening brace before an awaited one makes a
pair. -/
theorem Reads.prepend {cut : Cut (CodePoint × Nat)} {offset : Nat} {t : Text}
    (reads : Reads cut (offset + 1) t) (c : CodePoint) :
    Reads (cut.prepend (fun item => item.1.brace?) (c, offset)) offset (c :: t) := by
  cases kind : c.brace? with
  | none =>
    obtain ⟨spans, awaited⟩ := prepend_plain cut offset kind
    have notLeft : c ≠ .leftBrace := by rintro rfl; simp at kind
    have notRight : c ≠ .rightBrace := by rintro rfl; simp at kind
    constructor
    · intro s
      rw [spans, reads.spans, pairAt_cons]
      simp [notLeft]
    · intro p
      rw [awaited, reads.awaited]
      simp only [closes_cons, notRight, kind, false_and, false_or, true_and]
      constructor
      · rintro ⟨stop, closes, rfl⟩
        exact ⟨stop + 1, ⟨stop, closes, rfl⟩, by omega⟩
      · rintro ⟨_, ⟨stop, closes, rfl⟩, rfl⟩
        exact ⟨stop, closes, by omega⟩
  | some brace =>
    cases brace with
    | closing =>
      obtain ⟨spans, awaited⟩ := prepend_closing cut offset kind
      obtain rfl := CodePoint.brace?_eq_closing.mp kind
      constructor
      · intro s
        rw [spans, reads.spans, pairAt_cons]
        simp [CodePoint.rightBrace_ne_leftBrace]
      · intro p
        rw [awaited]
        simp [closes_cons, eq_comm]
    | opening =>
      obtain ⟨spans, awaited⟩ := prepend_opening cut offset kind
      obtain rfl := CodePoint.brace?_eq_opening.mp kind
      constructor
      · intro s
        rw [spans, List.mem_append, reads.spans, pairAt_cons, or_comm]
        refine or_congr_right ?_
        simp only [Option.mem_toList, Option.map_eq_some_iff, reads.awaited, true_and]
        constructor
        · rintro ⟨_, ⟨stop, closes, rfl⟩, rfl⟩
          exact ⟨stop, closes, rfl⟩
        · rintro ⟨stop, closes, rfl⟩
          exact ⟨_, ⟨stop, closes, rfl⟩, rfl⟩
      · intro p
        rw [awaited]
        simp [closes_cons, CodePoint.leftBrace_ne_rightBrace]

theorem reads_cut (t : Text) : ∀ offset : Nat,
    Reads ((t.zipIdx offset).foldr (Cut.prepend fun item => item.1.brace?) ⟨none, []⟩)
      offset t := by
  induction t with
  | nil => exact reads_empty
  | cons c t ih =>
    intro offset
    exact (ih (offset + 1)).prepend c

end Cut

/-- **The blocks of a text are its innermost pairs.** -/
theorem mem_blocks {t : Text} {s : Span} :
    s ∈ Template.blocks t ↔ ∃ start stop, InnermostPair t start stop ∧ s = ⟨start, stop + 1⟩ := by
  have reads := (Cut.reads_cut t 0).spans s
  unfold Template.blocks fragments
  rw [Cut.spans_settled]
  simpa only [Cut.spans, Cut.PairAt, Nat.zero_add] using reads

/-- Strictly between the braces of an innermost pair. -/
def Inside (t : Text) (offset : Nat) : Prop :=
  ∃ start stop, InnermostPair t start stop ∧ start < offset ∧ offset < stop

theorem InnermostPair.closing {t : Text} {start stop : Nat} (pair : InnermostPair t start stop) :
    t[stop]? = some .rightBrace := by
  obtain ⟨before, inner, after, rfl, -, rfl, rfl⟩ := pair
  rw [List.getElem?_append_right (by omega)]
  simp [show before.length + inner.length + 1 - before.length = inner.length + 1 by omega]

/-- Whether a block of the text encloses an offset. -/
def Template.enclosed (t : Text) (offset : Nat) : Bool :=
  (Template.blocks t).any (·.encloses offset)

/-- A block encloses what lies inside its pair; only its own closing brace is enclosed as well. -/
theorem enclosed_iff_inside {t : Text} {offset : Nat} (h : t[offset]? ≠ some .rightBrace) :
    Template.enclosed t offset = true ↔ Inside t offset := by
  simp only [Template.enclosed, List.any_eq_true, mem_blocks, Span.encloses, Bool.and_eq_true,
    decide_eq_true_eq]
  constructor
  · rintro ⟨_, ⟨start, stop, pair, rfl⟩, behind, before⟩
    have other : offset ≠ stop := fun eq => h (eq ▸ pair.closing)
    exact ⟨start, stop, pair, behind, Nat.lt_of_le_of_ne (Nat.le_of_lt_succ before) other⟩
  · rintro ⟨start, stop, pair, behind, before⟩
    exact ⟨⟨start, stop + 1⟩, ⟨start, stop, pair, rfl⟩, behind, Nat.lt_succ_of_lt before⟩

theorem split_at_last_opening {t : Text} (h : t.braces.getLast? = some .opening) :
    ∃ before inner : Text, t = before ++ .leftBrace :: inner ∧ inner.braces = [] := by
  induction t with
  | nil => simp at h
  | cons c t ih =>
    rw [Text.braces_cons] at h
    cases rest : Text.braces t with
    | nil =>
      have kind : c.brace? = some .opening := by
        rw [rest] at h
        cases kind : c.brace? <;> simp_all
      exact ⟨[], t, by rw [CodePoint.brace?_eq_opening.mp kind, List.nil_append], rest⟩
    | cons brace others =>
      have last : (Text.braces t).getLast? = some .opening := by
        rw [rest] at h ⊢
        cases kind : c.brace? <;> simp_all
      obtain ⟨before, inner, rfl, none⟩ := ih last
      exact ⟨c :: before, inner, rfl, none⟩

theorem split_at_first_closing {t : Text} (h : t.braces.head? = some .closing) :
    ∃ inner after : Text, t = inner ++ .rightBrace :: after ∧ inner.braces = [] := by
  induction t with
  | nil => simp at h
  | cons c t ih =>
    cases kind : c.brace? with
    | none =>
      rw [Text.braces_cons_of_none kind] at h
      obtain ⟨inner, after, rfl, none⟩ := ih h
      exact ⟨c :: inner, after, rfl, by rw [Text.braces_cons_of_none kind, none]⟩
    | some brace =>
      have first : c.brace? = some .closing := by simpa [Text.braces_cons, kind] using h
      exact ⟨[], t, by rw [CodePoint.brace?_eq_closing.mp first, List.nil_append], rfl⟩

/-- **Two braces decide.** A block encloses an offset exactly if the last brace before it is an
opening one and the first brace from it on is a closing one. -/
theorem enclosed_iff {t : Text} {offset : Nat} :
    Template.enclosed t offset = true ↔
      (Text.braces (t.take offset)).getLast? = some .opening ∧
        (Text.braces (t.drop offset)).head? = some .closing := by
  simp only [Template.enclosed, List.any_eq_true, mem_blocks, Span.encloses, Bool.and_eq_true,
    decide_eq_true_eq]
  constructor
  · rintro ⟨_, ⟨start, stop, ⟨before, inner, after, rfl, none, rfl, rfl⟩, rfl⟩, behind, within⟩
    obtain ⟨k, rfl⟩ : ∃ k, offset = before.length + (k + 1) :=
      ⟨offset - before.length - 1, by simp only at behind; omega⟩
    have bound : k ≤ inner.length := by simp only at within; omega
    rw [List.take_length_add_append, List.drop_length_add_append, List.take_succ_cons,
      List.drop_succ_cons, List.take_append_of_le_length bound, List.drop_append_of_le_length bound]
    simp [Text.braces_take_of_nil none, Text.braces_drop_of_nil none]
  · rintro ⟨last, first⟩
    obtain ⟨before, x, taken, plain⟩ := split_at_last_opening last
    obtain ⟨y, after, dropped, plain'⟩ := split_at_first_closing first
    have bound : offset ≤ t.length := by
      have := congrArg List.length dropped
      simp only [List.length_drop, List.length_append, List.length_cons] at this
      omega
    have place : offset = before.length + (x.length + 1) := by
      have := congrArg List.length taken
      simpa only [List.length_take, Nat.min_eq_left bound, List.length_append, List.length_cons]
        using this
    refine ⟨⟨before.length, _⟩,
      ⟨before.length, _, ⟨before, x ++ y, after, ?_, ?_, rfl, rfl⟩, rfl⟩, ?_⟩
    · rw [← List.take_append_drop offset t, taken, dropped]
      simp
    · simp [plain, plain']
    · simp only [List.length_append]
      omega

end SqlTemplate
