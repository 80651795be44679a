import Mathlib.Data.List.Induction
import SqlTemplate.Proofs.Braces
import SqlTemplate.Template.Warning

/-!
# Pairs of braces by nesting

Two braces are matched if what stands between them is balanced. The scan that warns about braces
keeps the open ones on a stack. `opened_scan_eq_cons_iff` says what lies on it, and from that follow
the braces that are left open (`mem_opened_scan`) and the warnings on the way
(`mem_warnings_scan`).
-/

namespace SqlTemplate

/-- A sequence of braces that all have a partner: nothing, or such a sequence with a pair behind it
that encloses another one. -/
inductive Balanced : List Brace → Prop
  | nil : Balanced []
  | pair {before inner : List Brace} : Balanced before → Balanced inner →
    Balanced (before ++ .opening :: (inner ++ [.closing]))

theorem Balanced.opening_mem {braces : List Brace} (balanced : Balanced braces)
    (some : braces ≠ []) : Brace.opening ∈ braces := by
  cases balanced with
  | nil => exact absurd rfl some
  | pair => simp

/-- An opening brace at `start` and a closing one at `stop`, with balanced text between them. -/
def Matched (t : Text) (start stop : Nat) : Prop :=
  ∃ before inner after : Text, t = before ++ .leftBrace :: (inner ++ .rightBrace :: after) ∧
    Balanced inner.braces ∧ before.length = start ∧ start + inner.length + 1 = stop

theorem Text.split_of_braces_cons {t : Text} {brace : Brace} {others : List Brace}
    (h : t.braces = brace :: others) :
    ∃ (before : Text) (c : CodePoint) (after : Text), t = before ++ c :: after ∧
      before.braces = [] ∧ c.brace? = some brace ∧ after.braces = others := by
  obtain ⟨before, c, after, whole, plain, kind, rest⟩ := List.filterMap_eq_cons_iff.mp h
  exact ⟨before, c, after, whole, Text.braces_eq_nil_iff.mpr plain, kind, rest⟩

/-- A code point of a text with one more behind it. -/
theorem Text.getElem?_concat_eq_some {t : Text} {c d : CodePoint} {offset : Nat} :
    (t ++ [c])[offset]? = some d ↔ t[offset]? = some d ∨ offset = t.length ∧ c = d := by
  rcases Nat.lt_trichotomy offset t.length with low | rfl | high
  · simp [List.getElem?_append_left low, Nat.ne_of_lt low]
  · simp
  · simp [List.getElem?_append_right (Nat.le_of_lt high), Nat.ne_of_gt high,
      List.getElem?_eq_none (Nat.le_of_lt high), Nat.sub_ne_zero_of_lt high]

namespace Nesting

/-- The state after a text that begins at `offset`. -/
def run (n : Nesting) (offset : Nat) (t : Text) : Nesting :=
  (t.zipIdx offset).foldl step n

theorem run_append (n : Nesting) (offset : Nat) (a b : Text) :
    n.run offset (a ++ b) = (n.run offset a).run (offset + a.length) b := by
  simp only [run, List.zipIdx_append, List.foldl_append]

theorem run_cons (n : Nesting) (offset : Nat) (c : CodePoint) (t : Text) :
    n.run offset (c :: t) = (n.step (c, offset)).run (offset + 1) t := rfl

theorem scan_append (a b : Text) : scan (a ++ b) = (scan a).run a.length b := by
  have whole := run_append ⟨[], []⟩ 0 a b
  rwa [Nat.zero_add] at whole

theorem scan_concat (t : Text) (c : CodePoint) : scan (t ++ [c]) = (scan t).step (c, t.length) :=
  scan_append t [c]

section
variable (n : Nesting) (offset : Nat)

theorem step_plain {c : CodePoint} (plain : c.brace? = none) : n.step (c, offset) = n := by
  simp [step, plain]

@[simp] theorem opened_step_leftBrace :
    (n.step (.leftBrace, offset)).opened = offset :: n.opened := by
  obtain ⟨_ | ⟨enclosing, outer⟩, warnings⟩ := n <;> rfl

@[simp] theorem opened_step_rightBrace :
    (n.step (.rightBrace, offset)).opened = n.opened.tail := by
  obtain ⟨_ | ⟨enclosing, outer⟩, warnings⟩ := n <;> rfl

/-- One step adds at most one warning. -/
theorem mem_warnings_step {c : CodePoint} {w : Warning} :
    w ∈ (n.step (c, offset)).warnings ↔ w ∈ n.warnings ∨
      (c = .leftBrace ∧ ∃ enclosing, n.opened.head? = some enclosing ∧
        w = .nestedBlock offset enclosing) ∨
      (c = .rightBrace ∧ n.opened = [] ∧ w = .unopened offset) := by
  cases kind : c.brace? with
  | none =>
    have left : c ≠ .leftBrace := by rintro rfl; simp at kind
    have right : c ≠ .rightBrace := by rintro rfl; simp at kind
    simp [step_plain n offset kind, left, right]
  | some brace =>
    cases brace with
    | opening =>
      obtain rfl := CodePoint.brace?_eq_opening.mp kind
      obtain ⟨_ | ⟨enclosing, outer⟩, warnings⟩ := n <;>
        simp [step, CodePoint.leftBrace_ne_rightBrace, or_comm]
    | closing =>
      obtain rfl := CodePoint.brace?_eq_closing.mp kind
      obtain ⟨_ | ⟨enclosing, outer⟩, warnings⟩ := n <;>
        simp [step, CodePoint.rightBrace_ne_leftBrace, or_comm]

theorem run_plain {t : Text} (plain : t.braces = []) : n.run offset t = n := by
  induction t generalizing offset with
  | nil => rfl
  | cons c t ih =>
    have none := Text.braces_eq_nil_iff.mp plain
    rw [run_cons, step_plain n offset (none c List.mem_cons_self)]
    refine ih (offset + 1) (Text.braces_eq_nil_iff.mpr fun d mem => ?_)
    exact none d (List.mem_cons_of_mem _ mem)

end

/-- **Balanced text leaves the stack as it is.** -/
theorem opened_run_of_balanced {braces : List Brace} (balanced : Balanced braces) (n : Nesting)
    (offset : Nat) {t : Text} (h : t.braces = braces) : (n.run offset t).opened = n.opened := by
  induction balanced generalizing n offset t with
  | nil => rw [run_plain n offset h]
  | pair _ _ outer nested =>
    obtain ⟨before, rest, rfl, first, h⟩ := List.filterMap_eq_append_iff.mp h
    obtain ⟨gap, c, rest, rfl, plain, opening, h⟩ := Text.split_of_braces_cons h
    obtain ⟨inner, rest, rfl, second, h⟩ := List.filterMap_eq_append_iff.mp h
    obtain ⟨gap', d, after, rfl, plain', closing, last⟩ := Text.split_of_braces_cons h
    obtain rfl := CodePoint.brace?_eq_opening.mp opening
    obtain rfl := CodePoint.brace?_eq_closing.mp closing
    rw [run_append, run_append, run_plain _ _ plain, run_cons, run_append, run_append,
      run_plain _ _ plain', run_cons, run_plain _ _ last, opened_step_rightBrace, nested _ _ second,
      opened_step_leftBrace, List.tail_cons, outer _ _ first]

theorem opened_scan_of_balanced {inner : Text} (balanced : Balanced inner.braces) (before : Text) :
    (scan (before ++ .leftBrace :: inner)).opened = before.length :: (scan before).opened := by
  rw [scan_append, run_cons, opened_run_of_balanced balanced _ _ rfl, opened_step_leftBrace]

theorem split_of_opened_scan {t : Text} {start : Nat} {outer : List Nat}
    (h : (scan t).opened = start :: outer) :
    ∃ before inner : Text, t = before ++ .leftBrace :: inner ∧ Balanced inner.braces ∧
      before.length = start ∧ (scan before).opened = outer := by
  rcases List.eq_nil_or_concat t with rfl | ⟨t, c, rfl⟩
  · simp [scan] at h
  · rw [List.concat_eq_append] at h ⊢
    rw [scan_concat] at h
    cases kind : c.brace? with
    | none =>
      rw [step_plain _ _ kind] at h
      obtain ⟨before, inner, rfl, balanced, length, rest⟩ := split_of_opened_scan h
      refine ⟨before, inner ++ [c], by simp, ?_, length, rest⟩
      simpa [Text.braces_cons_of_none kind] using balanced
    | some brace =>
      cases brace with
      | opening =>
        obtain rfl := CodePoint.brace?_eq_opening.mp kind
        rw [opened_step_leftBrace] at h
        obtain ⟨length, rest⟩ := List.cons.inj h
        exact ⟨t, [], rfl, .nil, length, rest⟩
      | closing =>
        -- The brace closes the top of the stack, so that what it encloses becomes a part of the
        -- text behind the next one.
        obtain rfl := CodePoint.brace?_eq_closing.mp kind
        rw [opened_step_rightBrace] at h
        obtain ⟨enclosing, top⟩ : ∃ enclosing, (scan t).opened = enclosing :: start :: outer := by
          cases opened : (scan t).opened with
          | nil => simp [opened] at h
          | cons enclosing rest => exact ⟨enclosing, by rw [← h, opened, List.tail_cons]⟩
        obtain ⟨before, nested, rfl, balanced, -, rest⟩ := split_of_opened_scan top
        obtain ⟨before, inner, rfl, balanced', length, rest⟩ := split_of_opened_scan rest
        refine ⟨before, inner ++ .leftBrace :: (nested ++ [.rightBrace]), by simp, ?_, length, rest⟩
        simpa using balanced'.pair balanced
termination_by t.length

/-- **What the stack holds.** Its top is the last opening brace with balanced text behind it, and
the rest is the stack at that brace. -/
theorem opened_scan_eq_cons_iff {t : Text} {start : Nat} {outer : List Nat} :
    (scan t).opened = start :: outer ↔
      ∃ before inner : Text, t = before ++ .leftBrace :: inner ∧ Balanced inner.braces ∧
        before.length = start ∧ (scan before).opened = outer := by
  constructor
  · exact split_of_opened_scan
  · rintro ⟨before, inner, rfl, balanced, rfl, rfl⟩
    exact opened_scan_of_balanced balanced before

theorem lt_length_of_mem_opened {t : Text} {start : Nat} (h : start ∈ (scan t).opened) :
    start < t.length := by
  induction t using List.reverseRecOn with
  | nil => simp [scan] at h
  | append_singleton t c ih =>
    rw [scan_concat] at h
    rw [List.length_append, List.length_singleton]
    cases kind : c.brace? with
    | none =>
      rw [step_plain _ _ kind] at h
      exact Nat.lt_succ_of_lt (ih h)
    | some brace =>
      cases brace with
      | opening =>
        obtain rfl := CodePoint.brace?_eq_opening.mp kind
        rw [opened_step_leftBrace] at h
        rcases List.mem_cons.mp h with rfl | h
        · exact Nat.lt_succ_self _
        · exact Nat.lt_succ_of_lt (ih h)
      | closing =>
        obtain rfl := CodePoint.brace?_eq_closing.mp kind
        rw [opened_step_rightBrace] at h
        exact Nat.lt_succ_of_lt (ih (List.mem_of_mem_tail h))

end Nesting

/-- A closing brace is matched with the top of the stack that the scan has reached it with. -/
theorem matched_iff {t : Text} {start stop : Nat} :
    Matched t start stop ↔ t[stop]? = some .rightBrace ∧
      ∃ outer, (Nesting.scan (t.take stop)).opened = start :: outer := by
  constructor
  · rintro ⟨before, inner, after, rfl, balanced, rfl, rfl⟩
    have whole : before ++ .leftBrace :: (inner ++ .rightBrace :: after) =
        (before ++ .leftBrace :: inner) ++ .rightBrace :: after := by simp
    have length : before.length + inner.length + 1 = (before ++ .leftBrace :: inner).length := by
      simp
      omega
    rw [whole, length, List.take_left]
    exact ⟨by simp, _, Nesting.opened_scan_of_balanced balanced before⟩
  · rintro ⟨closing, outer, top⟩
    obtain ⟨before, inner, shape, balanced, rfl, -⟩ := Nesting.opened_scan_eq_cons_iff.mp top
    obtain ⟨bound, at_stop⟩ := List.getElem?_eq_some_iff.mp closing
    refine ⟨before, inner, t.drop (stop + 1), ?_, balanced, rfl, ?_⟩
    · calc t = t.take stop ++ t.drop stop := (List.take_append_drop stop t).symm
        _ = _ := by rw [List.drop_eq_getElem_cons bound, at_stop, shape]; simp
    · have length := congrArg List.length shape
      simp only [List.length_take, List.length_append, List.length_cons] at length
      omega

/-- An innermost pair is matched. -/
theorem InnermostPair.matched {t : Text} {start stop : Nat} (pair : InnermostPair t start stop) :
    Matched t start stop := by
  obtain ⟨before, inner, after, whole, none, begins, ends⟩ := pair
  exact ⟨before, inner, after, whole, none ▸ .nil, begins, ends⟩

namespace Matched

variable {t : Text} {start stop : Nat}

theorem lt (pair : Matched t start stop) : start < stop := by
  obtain ⟨before, inner, after, -, -, -, rfl⟩ := pair
  omega

theorem opening (pair : Matched t start stop) : t[start]? = some .leftBrace := by
  obtain ⟨before, inner, after, rfl, -, rfl, -⟩ := pair
  simp

theorem closing (pair : Matched t start stop) : t[stop]? = some .rightBrace :=
  (matched_iff.mp pair).1

end Matched

theorem matched_take {t : Text} {n start stop : Nat} :
    Matched (t.take n) start stop ↔ Matched t start stop ∧ stop < n := by
  simp only [matched_iff, List.getElem?_take, List.take_take]
  by_cases bound : stop < n
  · simp [bound, Nat.min_eq_left (Nat.le_of_lt bound)]
  · simp [bound]

/-- One more code point makes a pair only if it closes the top of the stack. -/
theorem matched_concat {t : Text} {c : CodePoint} {start stop : Nat} :
    Matched (t ++ [c]) start stop ↔ Matched t start stop ∨
      stop = t.length ∧ c = .rightBrace ∧ ∃ outer, (Nesting.scan t).opened = start :: outer := by
  constructor
  · intro pair
    rcases Text.getElem?_concat_eq_some.mp pair.closing with within | ⟨rfl, rfl⟩
    · have bound := (List.getElem?_eq_some_iff.mp within).1
      have taken := matched_take.mpr ⟨pair, bound⟩
      rw [List.take_left] at taken
      exact .inl taken
    · obtain ⟨-, outer, top⟩ := matched_iff.mp pair
      rw [List.take_left] at top
      exact .inr ⟨rfl, rfl, outer, top⟩
  · rintro (pair | ⟨rfl, rfl, outer, top⟩)
    · refine (matched_take (n := t.length)).mp ?_ |>.1
      rwa [List.take_left]
    · exact matched_iff.mpr ⟨by simp, outer, by rwa [List.take_left]⟩

namespace Nesting

/-- **The braces left open.** They are the opening braces that are matched with none. -/
theorem mem_opened_scan {t : Text} {start : Nat} :
    start ∈ (scan t).opened ↔ t[start]? = some .leftBrace ∧ ∀ stop, ¬ Matched t start stop := by
  induction t using List.reverseRecOn with
  | nil => simp [scan]
  | append_singleton t c ih =>
    rw [scan_concat]
    simp only [Text.getElem?_concat_eq_some, matched_concat]
    cases kind : c.brace? with
    | none =>
      have left : c ≠ .leftBrace := by rintro rfl; simp at kind
      have right : c ≠ .rightBrace := by rintro rfl; simp at kind
      simp [step_plain _ _ kind, left, right, ih]
    | some brace =>
      cases brace with
      | opening =>
        obtain rfl := CodePoint.brace?_eq_opening.mp kind
        have fresh (stop : Nat) : ¬ Matched t t.length stop := fun pair =>
          Nat.lt_irrefl _ (List.getElem?_eq_some_iff.mp pair.opening).1
        rw [opened_step_leftBrace, List.mem_cons, ih]
        simp only [CodePoint.leftBrace_ne_rightBrace, false_and, and_false, or_false, and_true]
        constructor
        · rintro (rfl | ⟨opening, unmatched⟩)
          · exact ⟨.inr rfl, fresh⟩
          · exact ⟨.inl opening, unmatched⟩
        · rintro ⟨opening | rfl, unmatched⟩
          · exact .inr ⟨opening, unmatched⟩
          · exact .inl rfl
      | closing =>
        obtain rfl := CodePoint.brace?_eq_closing.mp kind
        simp only [opened_step_rightBrace, CodePoint.rightBrace_ne_leftBrace, and_false, or_false,
          true_and, not_or, forall_and, ← and_assoc, ← ih]
        cases opened : (scan t).opened with
        | nil => simp
        | cons top outer =>
          -- The top of the stack is not in it a second time, because it stands behind the rest.
          have apart : top ∉ outer := by
            intro again
            obtain ⟨before, inner, -, -, rfl, rfl⟩ := opened_scan_eq_cons_iff.mp opened
            exact Nat.lt_irrefl _ (lt_length_of_mem_opened again)
          simp only [List.tail_cons, List.mem_cons, List.cons.injEq, not_and, not_exists]
          constructor
          · intro mem
            exact ⟨.inr mem, fun _ _ _ same => absurd (same ▸ mem) apart⟩
          · rintro ⟨rfl | mem, other⟩
            · exact absurd rfl (other _ rfl outer rfl)
            · exact mem

/-- The warnings of the scan: an opening brace under another one that is still open, and a closing
one with none. -/
inductive Flaw (t : Text) : Warning → Prop
  | nested {offset enclosing : Nat} : t[offset]? = some .leftBrace →
    (scan (t.take offset)).opened.head? = some enclosing → Flaw t (.nestedBlock offset enclosing)
  | unopened {offset : Nat} : t[offset]? = some .rightBrace →
    (scan (t.take offset)).opened = [] → Flaw t (.unopened offset)

theorem flaw_concat {t : Text} {c : CodePoint} {w : Warning} :
    Flaw (t ++ [c]) w ↔ Flaw t w ∨
      (c = .leftBrace ∧ ∃ enclosing, (scan t).opened.head? = some enclosing ∧
        w = .nestedBlock t.length enclosing) ∨
      (c = .rightBrace ∧ (scan t).opened = [] ∧ w = .unopened t.length) := by
  have take {offset : Nat} {d : CodePoint} (h : t[offset]? = some d) :
      (t ++ [c]).take offset = t.take offset :=
    List.take_append_of_le_length (Nat.le_of_lt (List.getElem?_eq_some_iff.mp h).1)
  constructor
  · rintro (⟨opening, enclosed⟩ | ⟨closing, none⟩)
    · rcases Text.getElem?_concat_eq_some.mp opening with within | ⟨rfl, rfl⟩
      · exact .inl (.nested within (take within ▸ enclosed))
      · rw [List.take_left] at enclosed
        exact .inr (.inl ⟨rfl, _, enclosed, rfl⟩)
    · rcases Text.getElem?_concat_eq_some.mp closing with within | ⟨rfl, rfl⟩
      · exact .inl (.unopened within (take within ▸ none))
      · rw [List.take_left] at none
        exact .inr (.inr ⟨rfl, none, rfl⟩)
  · rintro ((⟨opening, enclosed⟩ | ⟨closing, none⟩) | ⟨rfl, _, enclosed, rfl⟩ | ⟨rfl, none, rfl⟩)
    · exact .nested (Text.getElem?_concat_eq_some.mpr (.inl opening)) (take opening ▸ enclosed)
    · exact .unopened (Text.getElem?_concat_eq_some.mpr (.inl closing)) (take closing ▸ none)
    · exact .nested (by simp) (by rwa [List.take_left])
    · exact .unopened (by simp) (by rwa [List.take_left])

/-- **The warnings on the way.** -/
theorem mem_warnings_scan {t : Text} {w : Warning} : w ∈ (scan t).warnings ↔ Flaw t w := by
  induction t using List.reverseRecOn with
  | nil =>
    refine iff_of_false (by simp [scan]) ?_
    rintro (⟨opening, -⟩ | ⟨closing, -⟩)
    · simp at opening
    · simp at closing
  | append_singleton t c ih => rw [scan_concat, mem_warnings_step, flaw_concat, ih]

end Nesting

end SqlTemplate
