import Mathlib.Data.List.Nodup
import Mathlib.Data.List.Pairwise
import SqlTemplate.Proofs.BraceWarnings

/-!
# The order of the warnings

The scan finds warnings from left to right and lists the braces never closed behind them. All
warnings are then sorted by offset, with those at one offset left in the order in which they were
found (`filter_warnings`), so that a nested opening comes before the report that it is never closed
(`warnings_nested_first`).
-/

namespace SqlTemplate

namespace Warning

/-- The warnings of one kind, in order. -/
def ofKind (kind : Text) (ws : List Warning) : List Warning :=
  ws.filter fun w => w.kind = kind

variable {kind : Text} {ws : List Warning}

theorem mem_ofKind {w : Warning} : w ∈ ofKind kind ws ↔ w ∈ ws ∧ w.kind = kind := by
  rw [ofKind, List.mem_filter, decide_eq_true_eq]

theorem ofKind_append (kind : Text) (a b : List Warning) :
    ofKind kind (a ++ b) = ofKind kind a ++ ofKind kind b :=
  List.filter_append a b

theorem ofKind_eq_self (all : ∀ w ∈ ws, w.kind = kind) : ofKind kind ws = ws :=
  List.filter_eq_self.mpr fun w mem => decide_eq_true (all w mem)

theorem ofKind_eq_nil (none : ∀ w ∈ ws, w.kind ≠ kind) : ofKind kind ws = [] :=
  List.filter_eq_nil_iff.mpr fun w mem same => none w mem (of_decide_eq_true same)

end Warning

namespace Nesting

theorem Flaw.offset_lt {t : Text} {w : Warning} (flaw : Flaw t w) : w.offset < t.length := by
  cases flaw with
  | nested opening => exact (List.getElem?_eq_some_iff.mp opening).1
  | unopened closing => exact (List.getElem?_eq_some_iff.mp closing).1

/-- One step adds at most one warning, at its own offset. -/
theorem warnings_step (n : Nesting) (c : CodePoint) (offset : Nat) :
    (n.step (c, offset)).warnings = n.warnings ∨
      ∃ w, w.offset = offset ∧ (n.step (c, offset)).warnings = w :: n.warnings := by
  obtain ⟨opened, warnings⟩ := n
  cases kind : c.brace? with
  | none => exact .inl (congrArg Nesting.warnings (step_plain _ offset kind))
  | some brace =>
    cases brace with
    | opening =>
      cases opened with
      | nil => exact .inl (by simp [step, kind])
      | cons enclosing outer =>
        exact .inr ⟨.nestedBlock offset enclosing, rfl, by simp [step, kind]⟩
    | closing =>
      cases opened with
      | nil => exact .inr ⟨.unopened offset, rfl, by simp [step, kind]⟩
      | cons enclosing outer => exact .inl (by simp [step, kind])

/-- The latest warning stands first, and no two stand at one offset. -/
theorem warnings_scan_descending (t : Text) :
    (scan t).warnings.Pairwise fun a b => b.offset < a.offset := by
  induction t using List.reverseRecOn with
  | nil => exact List.Pairwise.nil
  | append_singleton t c ih =>
    rw [scan_concat]
    rcases warnings_step (scan t) c t.length with same | ⟨w, place, more⟩
    · rwa [same]
    · rw [more, List.pairwise_cons]
      refine ⟨?_, ih⟩
      intro earlier mem
      rw [place]
      exact (mem_warnings_scan.mp mem).offset_lt

/-- The innermost open brace stands first, and the others before it in the text. -/
theorem opened_scan_descending (t : Text) : (scan t).opened.Pairwise fun a b => b < a := by
  induction size : t.length using Nat.strongRecOn generalizing t with
  | ind n ih =>
    cases opened : (scan t).opened with
    | nil => exact List.Pairwise.nil
    | cons top outer =>
      obtain ⟨before, inner, rfl, -, rfl, rest⟩ := opened_scan_eq_cons_iff.mp opened
      have shorter : before.length < n := by
        rw [← size, List.length_append, List.length_cons]
        omega
      have others := ih before.length shorter before rfl
      rw [rest] at others
      refine List.pairwise_cons.mpr ⟨?_, others⟩
      intro start mem
      exact lt_length_of_mem_opened (rest ▸ mem)

theorem nodup_offset_warnings (t : Text) : ((scan t).warnings.map Warning.offset).Nodup := by
  rw [List.Nodup, List.pairwise_map]
  apply (warnings_scan_descending t).imp
  intro a b order
  exact Nat.ne_of_gt order

theorem nodup_opened (t : Text) : (scan t).opened.Nodup := by
  apply (opened_scan_descending t).imp
  intro a b order
  exact Nat.ne_of_gt order

end Nesting

namespace Template

variable {t : Text}

theorem mem_braceWarnings {w : Warning} :
    w ∈ braceWarnings t ↔
      Nesting.Flaw t w ∨ ∃ start ∈ (Nesting.scan t).opened, w = .unclosed start := by
  simp only [braceWarnings, List.mem_append, List.mem_reverse, List.mem_map,
    Nesting.mem_warnings_scan, eq_comm]

theorem kind_of_mem_braceWarnings {w : Warning} (mem : w ∈ braceWarnings t) :
    w.kind = "nested_block" ∨ w.kind = "unmatched_brace" := by
  rcases mem_braceWarnings.mp mem with flaw | ⟨start, -, rfl⟩
  · cases flaw with
    | nested => exact .inl rfl
    | unopened => exact .inr rfl
  · exact .inr rfl

/-- No warning about braces is given twice. -/
theorem nodup_braceWarnings (t : Text) : (braceWarnings t).Nodup := by
  have flaws : (Nesting.scan t).warnings.Nodup :=
    (Nesting.nodup_offset_warnings t).of_map Warning.offset
  have unclosed : ((Nesting.scan t).opened.map Warning.unclosed).Nodup :=
    (Nesting.nodup_opened t).map fun _ _ => Warning.unclosed.inj
  rw [braceWarnings, List.map_reverse, List.nodup_append]
  refine ⟨List.nodup_reverse.mpr flaws, List.nodup_reverse.mpr unclosed, ?_⟩
  rintro a first _ second rfl
  rw [List.mem_reverse, Nesting.mem_warnings_scan] at first
  obtain ⟨start, -, rfl⟩ := List.mem_map.mp (List.mem_reverse.mp second)
  cases first

/-- Sorting loses nothing and lists nothing twice. -/
theorem warnings_perm (t : Text) : (warnings t).Perm (braceWarnings t ++ literalWarnings t) :=
  List.mergeSort_perm _ _

theorem byOffset_trans (a b c : Warning) (first : decide (a.offset ≤ b.offset) = true)
    (second : decide (b.offset ≤ c.offset) = true) : decide (a.offset ≤ c.offset) = true := by
  rw [decide_eq_true_eq] at first second ⊢
  exact Nat.le_trans first second

theorem byOffset_total (a b : Warning) :
    (decide (a.offset ≤ b.offset) || decide (b.offset ≤ a.offset)) = true := by
  rw [Bool.or_eq_true, decide_eq_true_eq, decide_eq_true_eq]
  exact Nat.le_total a.offset b.offset

theorem warnings_sorted (t : Text) :
    (warnings t).Pairwise fun a b => a.offset ≤ b.offset := by
  have sorted := List.pairwise_mergeSort byOffset_trans byOffset_total
    (braceWarnings t ++ literalWarnings t)
  exact sorted.imp of_decide_eq_true

/-- **Sorting is stable.** Warnings that are in order when they are found stay as they are. -/
theorem filter_warnings {p : Warning → Bool}
    (sorted : ((braceWarnings t ++ literalWarnings t).filter p).Pairwise
      fun a b => a.offset ≤ b.offset) :
    (warnings t).filter p = (braceWarnings t ++ literalWarnings t).filter p := by
  have found : ((braceWarnings t ++ literalWarnings t).filter p).Sublist (warnings t) := by
    refine List.sublist_mergeSort byOffset_trans byOffset_total ?_ List.filter_sublist
    simpa only [decide_eq_true_eq] using sorted
  have kept := found.filter p
  rw [List.filter_filter] at kept
  simp only [Bool.and_self] at kept
  have same := ((warnings_perm t).filter p).length_eq
  exact (kept.eq_of_length same.symm).symm

/-- The scan comes to a nested opening before it gives it up as never closed. -/
theorem found_nested_first (t : Text) :
    (braceWarnings t ++ literalWarnings t).Pairwise fun a b : Warning =>
      a.offset = b.offset → a.kind = "unmatched_brace" → b.kind ≠ "nested_block" := by
  have later : ∀ b ∈ (Nesting.scan t).opened.reverse.map Warning.unclosed ++ literalWarnings t,
      b.kind ≠ "nested_block" := by
    intro b mem nested
    obtain ⟨offset, enclosing, rfl⟩ := Warning.kind_eq_nested_iff.mp nested
    rcases List.mem_append.mp mem with unclosed | literal
    · obtain ⟨start, -, same⟩ := List.mem_map.mp unclosed
      nomatch same
    · obtain ⟨_, _, same⟩ := of_mem_literalWarnings literal
      nomatch same
  rw [braceWarnings, List.append_assoc, List.pairwise_append]
  refine ⟨?_, ?_, fun a _ b mem _ _ => later b mem⟩
  · apply List.pairwise_of_forall_mem_list
    intro a first b second same unmatched nested
    rw [List.mem_reverse, Nesting.mem_warnings_scan] at first second
    obtain ⟨offset, enclosing, rfl⟩ := Warning.kind_eq_nested_iff.mp nested
    obtain ⟨offset', rfl | rfl⟩ := Warning.kind_eq_unmatched_iff.mp unmatched
    · obtain rfl : offset' = offset := same
      cases first with
      | unopened closing =>
        cases second with
        | nested opening =>
          rw [opening, Option.some.injEq] at closing
          exact CodePoint.leftBrace_ne_rightBrace closing
    · cases first
  · apply List.pairwise_of_forall_mem_list
    intro a _ b mem _ _
    exact later b mem

/-- **At one offset, a nested opening comes first.** -/
theorem warnings_nested_first (t : Text) :
    (warnings t).Pairwise fun a b : Warning =>
      a.offset = b.offset → a.kind = "unmatched_brace" → b.kind ≠ "nested_block" := by
  rw [List.pairwise_iff_forall_sublist]
  intro a b among same
  -- The two stand at one offset, where the order is that in which they were found.
  have here : ((braceWarnings t ++ literalWarnings t).filter
      fun w => decide (w.offset = b.offset)).Pairwise fun a b => a.offset ≤ b.offset := by
    apply List.pairwise_of_forall_mem_list
    intro x first y second
    have at_x := of_decide_eq_true (List.mem_filter.mp first).2
    have at_y := of_decide_eq_true (List.mem_filter.mp second).2
    omega
  have filtered := among.filter fun w => decide (w.offset = b.offset)
  rw [filter_warnings here] at filtered
  have both : [a, b].filter (fun w => decide (w.offset = b.offset)) = [a, b] := by
    simp [same]
  rw [both] at filtered
  have found : [a, b].Sublist (braceWarnings t ++ literalWarnings t) :=
    filtered.trans List.filter_sublist
  exact List.pairwise_iff_forall_sublist.mp (found_nested_first t) found same

end Template

end SqlTemplate
