import Mathlib.Data.List.Basic
import SqlTemplate.Proofs.BraceWarnings
import SqlTemplate.Value.Basic

/-!
# What settling the blocks takes away

The blocks of a text stand in order and apart from each other. Settling takes their braces away, or
all that they span, and leaves every other code point where it is (`settleBlocks_eq_without`).
-/

namespace SqlTemplate

/-- A text without the code points at some offsets. -/
def Text.without (t : Text) (gone : Nat → Bool) : Text :=
  (t.zipIdx.filter fun item => !gone item.2).map (·.1)

namespace Text

theorem without_sublist (t : Text) (gone : Nat → Bool) : (t.without gone).Sublist t := by
  have sub : (t.zipIdx.filter fun item => !gone item.2).Sublist t.zipIdx := List.filter_sublist
  have firsts := sub.map (·.1)
  rwa [List.zipIdx_map_fst] at firsts

theorem without_congr {t : Text} {gone gone' : Nat → Bool}
    (same : ∀ p < t.length, gone p = gone' p) : t.without gone = t.without gone' := by
  have filtered : t.zipIdx.filter (fun item => !gone item.2) =
      t.zipIdx.filter fun item => !gone' item.2 := by
    apply List.filter_congr
    intro item mem
    have bound := (List.mem_zipIdx mem).2.1
    rw [same item.2 (by omega)]
  rw [without, without, filtered]

theorem without_none (t : Text) : t.without (fun _ => false) = t := by
  have all : t.zipIdx.filter (fun _ => !false) = t.zipIdx := List.filter_eq_self.mpr fun _ _ => rfl
  rw [without, all, List.zipIdx_map_fst]

theorem without_append (a b : Text) (gone : Nat → Bool) :
    (a ++ b).without gone = a.without gone ++ b.without fun p => gone (a.length + p) := by
  have moved : b.zipIdx a.length = b.zipIdx.map fun item => (item.1, a.length + item.2) :=
    List.zipIdx_eq_map_add
  rw [without, List.zipIdx_append, Nat.zero_add, moved, List.filter_append, List.filter_map,
    List.map_append, List.map_map]
  rfl

end Text

namespace Span

/-- Whether the first or the last code point of a span stands at an offset. -/
def bounds (s : Span) (offset : Nat) : Bool :=
  decide (offset = s.start) || decide (offset + 1 = s.stop)

/-- Whether an offset lies in a span, both ends included. -/
def covers (s : Span) (offset : Nat) : Bool :=
  decide (s.start ≤ offset) && decide (offset < s.stop)

/-- Whether settling takes the code point at an offset away from a block. -/
def loses (drop : Bool) (s : Span) (offset : Nat) : Bool :=
  if drop then s.covers offset else s.bounds offset

/-- Only code points of a block are lost. -/
theorem covers_of_loses {drop : Bool} {s : Span} {offset : Nat} (proper : s.start < s.stop)
    (lost : s.loses drop offset = true) : s.start ≤ offset ∧ offset < s.stop := by
  cases drop with
  | true => simpa [loses, covers] using lost
  | false =>
    have ends : offset = s.start ∨ offset + 1 = s.stop := by simpa [loses, bounds] using lost
    omega

end Span

namespace Fragment

variable {α β : Type}

def map (f : α → β) : Fragment α → Fragment β
  | .outside item => .outside (f item)
  | .block opening inner closing => .block (f opening) (inner.map f) (f closing)

/-- What settling leaves of a fragment. -/
def settled (drop : Bool) (f : Fragment α) : List α :=
  if drop then f.dropped else f.kept

theorem settled_map (g : α → β) (drop : Bool) (f : Fragment α) :
    (f.map g).settled drop = (f.settled drop).map g := by
  cases drop <;> cases f <;> rfl

end Fragment

section
variable {α β : Type} (f : α → β) (brace? : β → Option Brace)

def Cut.map (cut : Cut α) : Cut β :=
  ⟨cut.pending.map fun (inner, closing) => (inner.map f, f closing), cut.fragments.map (.map f)⟩

theorem Cut.settled_map (cut : Cut α) : (cut.map f).settled = cut.settled.map (.map f) := by
  obtain ⟨_ | ⟨inner, closing⟩, fragments⟩ := cut
  · rfl
  · simp [Cut.map, settled, Fragment.map, Function.comp_def]

theorem Cut.prepend_map (a : α) (cut : Cut α) :
    (cut.map f).prepend brace? (f a) = (cut.prepend (fun a => brace? (f a)) a).map f := by
  have settled := cut.settled_map f
  obtain ⟨_ | ⟨inner, closing⟩, fragments⟩ := cut <;> cases kind : brace? (f a) with
    | none => simp [prepend, kind, Cut.map, Fragment.map]
    | some brace => cases brace <;> simp_all [prepend, Cut.map, Fragment.map]

/-- Items are cut by their braces alone. -/
theorem fragments_map (items : List α) :
    fragments brace? (items.map f) = (fragments (fun a => brace? (f a)) items).map (.map f) := by
  have cut : (items.map f).foldr (Cut.prepend brace?) ⟨none, []⟩ =
      (items.foldr (Cut.prepend fun a => brace? (f a)) ⟨none, []⟩).map f := by
    induction items with
    | nil => rfl
    | cons a items ih => rw [List.map_cons, List.foldr_cons, ih, Cut.prepend_map, List.foldr_cons]
  rw [fragments, cut, Cut.settled_map, fragments]

end

namespace Fragment

/-- The spans of the blocks among some fragments. -/
def spans (fs : List (Fragment (CodePoint × Nat))) : List Span :=
  fs.filterMap span?

/-- The fragments of a text, with the offsets of their code points. -/
def placed (t : Text) : List (Fragment (CodePoint × Nat)) :=
  fragments (fun item => item.1.brace?) t.zipIdx

/-- The offsets of the items go up from one to the next. -/
def Ascending (fs : List (Fragment (CodePoint × Nat))) : Prop :=
  (fs.flatMap items).Pairwise fun a b => a.2 < b.2

theorem items_placed (t : Text) : (placed t).flatMap items = t.zipIdx :=
  items_fragments _ _

theorem ascending_placed (t : Text) : Ascending (placed t) := by
  rw [Ascending, items_placed, ← List.pairwise_map, List.zipIdx_map_snd]
  exact List.pairwise_lt_range' 1

theorem span?_eq_some {f : Fragment (CodePoint × Nat)} {s : Span} :
    f.span? = some s ↔ ∃ opening inner closing, f = .block opening inner closing ∧
      s = ⟨opening.2, closing.2 + 1⟩ := by
  cases f with
  | outside item => simp [span?]
  | block opening inner closing => simp [span?, eq_comm, and_assoc]

variable {f : Fragment (CodePoint × Nat)} {fs : List (Fragment (CodePoint × Nat))}

/-- A block begins at its first item and ends behind its last one. -/
theorem ends_of_span? {s : Span} (span : f.span? = some s) :
    ∃ first ∈ f.items, ∃ last ∈ f.items, s.start = first.2 ∧ s.stop = last.2 + 1 := by
  obtain ⟨opening, inner, closing, rfl, rfl⟩ := span?_eq_some.mp span
  exact ⟨opening, by simp [items], closing, by simp [items], rfl, rfl⟩

theorem Ascending.tail (ascending : Ascending (f :: fs)) : Ascending fs := by
  rw [Ascending, List.flatMap_cons] at ascending
  exact (List.pairwise_append.mp ascending).2.1

/-- The items of the first fragment stand before the others. -/
theorem Ascending.before (ascending : Ascending (f :: fs)) {a b : CodePoint × Nat}
    (first : a ∈ f.items) (later : b ∈ fs.flatMap items) : a.2 < b.2 := by
  rw [Ascending, List.flatMap_cons] at ascending
  exact (List.pairwise_append.mp ascending).2.2 a first b later

theorem Ascending.start_lt_stop (ascending : Ascending fs) {s : Span} (mem : s ∈ spans fs) :
    s.start < s.stop := by
  obtain ⟨f, among, span⟩ := List.mem_filterMap.mp mem
  obtain ⟨opening, inner, closing, rfl, rfl⟩ := span?_eq_some.mp span
  have sorted := (List.pairwise_flatMap.mp ascending).1 _ among
  have order : opening.2 < closing.2 := by
    rw [items, List.pairwise_cons] at sorted
    exact sorted.1 closing (by simp)
  exact Nat.lt_succ_of_lt order

theorem start_mem_items {s : Span} (mem : s ∈ spans fs) :
    ∃ a ∈ fs.flatMap items, s.start = a.2 := by
  obtain ⟨f, among, span⟩ := List.mem_filterMap.mp mem
  obtain ⟨first, inside, -, -, start, -⟩ := ends_of_span? span
  exact ⟨first, List.mem_flatMap.mpr ⟨f, among, inside⟩, start⟩

/-- **Blocks stand in order and apart.** -/
theorem Ascending.spans_apart (ascending : Ascending fs) :
    (spans fs).Pairwise fun a b => a.stop ≤ b.start := by
  induction fs with
  | nil => exact List.Pairwise.nil
  | cons f fs ih =>
    have others := ih ascending.tail
    cases span : f.span? with
    | none => rwa [spans, List.filterMap_cons_none span]
    | some s =>
      rw [spans, List.filterMap_cons_some span, List.pairwise_cons]
      refine ⟨?_, others⟩
      intro s' mem
      obtain ⟨-, -, last, inside, -, stop⟩ := ends_of_span? span
      obtain ⟨a, later, start⟩ := start_mem_items mem
      have order := ascending.before inside later
      omega

/-- What a fragment loses to its own block. -/
theorem settled_eq_filter (ascending : f.items.Pairwise fun a b => a.2 < b.2) (drop : Bool) :
    f.settled drop = f.items.filter fun item => !(f.span?.any (·.loses drop item.2)) := by
  cases f with
  | outside item => cases drop <;> simp [settled, kept, dropped, items, span?]
  | block opening inner closing =>
    rw [items, List.pairwise_cons, List.pairwise_append] at ascending
    obtain ⟨after, -, -, before⟩ := ascending
    have order : opening.2 < closing.2 := after closing (by simp)
    have within (item : CodePoint × Nat) (mem : item ∈ inner) :
        opening.2 < item.2 ∧ item.2 < closing.2 :=
      ⟨after item (by simp [mem]), before item mem closing (by simp)⟩
    cases drop with
    | true =>
      have none : inner.filter (fun item => !Span.covers ⟨opening.2, closing.2 + 1⟩ item.2) =
          [] := by
        apply List.filter_eq_nil_iff.mpr
        intro item mem
        obtain ⟨low, high⟩ := within item mem
        simp only [Span.covers, Bool.not_eq_true', Bool.not_eq_false, Bool.and_eq_true,
          decide_eq_true_eq]
        omega
      have first : Span.covers ⟨opening.2, closing.2 + 1⟩ opening.2 = true := by
        simp [Span.covers, Nat.lt_succ_of_lt order]
      have last : Span.covers ⟨opening.2, closing.2 + 1⟩ closing.2 = true := by
        simp [Span.covers, Nat.le_of_lt order]
      simp [settled, dropped, items, span?, Span.loses, none, first, last]
    | false =>
      have all : inner.filter (fun item => !Span.bounds ⟨opening.2, closing.2 + 1⟩ item.2) =
          inner := by
        apply List.filter_eq_self.mpr
        intro item mem
        obtain ⟨low, high⟩ := within item mem
        simp only [Span.bounds, Bool.not_eq_true', Bool.or_eq_false_iff, decide_eq_false_iff_not]
        omega
      have first : Span.bounds ⟨opening.2, closing.2 + 1⟩ opening.2 = true := by
        simp [Span.bounds]
      have last : Span.bounds ⟨opening.2, closing.2 + 1⟩ closing.2 = true := by
        simp [Span.bounds]
      simp [settled, kept, items, span?, Span.loses, all, first, last]

/-- **What is left is all that no block loses.** -/
theorem Ascending.settled_eq_filter (ascending : Ascending fs) (drop : Bool) :
    fs.flatMap (settled drop) =
      (fs.flatMap items).filter fun item => !(spans fs).any (·.loses drop item.2) := by
  induction fs with
  | nil => rfl
  | cons f fs ih =>
    have spans_cons : spans (f :: fs) = f.span?.toList ++ spans fs := by
      cases span : f.span? <;> simp [spans, span]
    have first : f.items.filter (fun item => !(spans (f :: fs)).any (·.loses drop item.2)) =
        f.items.filter fun item => !(f.span?.any (·.loses drop item.2)) := by
      apply List.filter_congr
      intro item inside
      have kept : (spans fs).any (·.loses drop item.2) = false := by
        apply List.any_eq_false.mpr
        intro s mem lost
        obtain ⟨a, later, start⟩ := start_mem_items mem
        have order := ascending.before inside later
        have covered := Span.covers_of_loses (ascending.tail.start_lt_stop mem) lost
        omega
      rw [spans_cons, List.any_append, kept, Bool.or_false]
      cases f.span? <;> simp
    have others : (fs.flatMap items).filter
          (fun item => !(spans (f :: fs)).any (·.loses drop item.2)) =
        (fs.flatMap items).filter fun item => !(spans fs).any (·.loses drop item.2) := by
      apply List.filter_congr
      intro item later
      have kept : f.span?.toList.any (·.loses drop item.2) = false := by
        apply List.any_eq_false.mpr
        intro s own lost
        have span : f.span? = some s := Option.mem_toList.mp own
        obtain ⟨-, -, last, inside, -, stop⟩ := ends_of_span? span
        have order := ascending.before inside later
        have mem : s ∈ spans (f :: fs) := by
          rw [spans_cons]
          exact List.mem_append_left _ own
        have covered := Span.covers_of_loses (ascending.start_lt_stop mem) lost
        omega
      rw [spans_cons, List.any_append, kept, Bool.false_or]
    have sorted : f.items.Pairwise fun a b => a.2 < b.2 :=
      (List.pairwise_flatMap.mp ascending).1 f List.mem_cons_self
    rw [List.flatMap_cons, List.flatMap_cons, List.filter_append, first, others,
      ← ih ascending.tail, Fragment.settled_eq_filter sorted]

end Fragment

/-- The braces of an innermost pair, by their offsets. -/
theorem innermostPair_iff {t : Text} {start stop : Nat} :
    InnermostPair t start stop ↔ start < stop ∧ t[start]? = some .leftBrace ∧
      t[stop]? = some .rightBrace ∧ ∀ k, start < k → k < stop → ¬ BraceAt t k := by
  constructor
  · intro pair
    exact ⟨pair.matched.lt, pair.matched.opening, pair.matched.closing,
      fun k behind before => pair.not_braceAt behind before⟩
  · rintro ⟨order, opening, closing, none⟩
    obtain ⟨low, at_start⟩ := List.getElem?_eq_some_iff.mp opening
    obtain ⟨high, at_stop⟩ := List.getElem?_eq_some_iff.mp closing
    obtain ⟨gap, rfl⟩ := Nat.exists_eq_add_of_lt order
    have inner : t.drop (start + 1) =
        (t.drop (start + 1)).take gap ++ .rightBrace :: t.drop (start + gap + 1 + 1) := by
      calc t.drop (start + 1)
          = (t.drop (start + 1)).take gap ++ (t.drop (start + 1)).drop gap :=
            (List.take_append_drop gap _).symm
        _ = _ := by
          rw [List.drop_drop, show start + 1 + gap = start + gap + 1 by omega,
            List.drop_eq_getElem_cons high, at_stop]
    refine ⟨t.take start, (t.drop (start + 1)).take gap, t.drop (start + gap + 1 + 1),
      ?_, ?_, ?_, ?_⟩
    · rw [← inner, ← at_start, ← List.drop_eq_getElem_cons low, List.take_append_drop]
    · apply Text.braces_eq_nil_iff.mpr
      intro c mem
      obtain ⟨k, at_k⟩ := List.mem_iff_getElem?.mp mem
      have within : k < gap := by
        have bound := (List.getElem?_eq_some_iff.mp at_k).1
        rw [List.length_take] at bound
        omega
      rw [List.getElem?_take_of_lt within, List.getElem?_drop] at at_k
      have plain := none (start + 1 + k) (by omega) (by omega)
      cases kind : c.brace? with
      | none => rfl
      | some brace =>
        refine absurd ?_ plain
        cases brace with
        | opening => exact .inl (at_k.trans (congrArg some (CodePoint.brace?_eq_opening.mp kind)))
        | closing => exact .inr (at_k.trans (congrArg some (CodePoint.brace?_eq_closing.mp kind)))
    · exact List.length_take_of_le (Nat.le_of_lt low)
    · rw [List.length_take, List.length_drop]
      omega

namespace Template

theorem spans_placed (t : Text) : Fragment.spans (Fragment.placed t) = blocks t := rfl

theorem blocks_apart (t : Text) : (blocks t).Pairwise fun a b => a.stop ≤ b.start :=
  (Fragment.ascending_placed t).spans_apart

theorem start_lt_stop_of_mem_blocks {t : Text} {s : Span} (mem : s ∈ blocks t) :
    s.start < s.stop :=
  (Fragment.ascending_placed t).start_lt_stop mem

/-- Settling takes away what the blocks lose. -/
theorem settleBlocks_eq_without (drop : Bool) (t : Text) :
    settleBlocks drop t = t.without fun offset => (blocks t).any (·.loses drop offset) := by
  have whole : fragments CodePoint.brace? t = (Fragment.placed t).map (.map (·.1)) := by
    have unplaced := fragments_map (·.1) CodePoint.brace? t.zipIdx
    rwa [List.zipIdx_map_fst] at unplaced
  have settled : settleBlocks drop t =
      ((Fragment.placed t).flatMap (Fragment.settled drop)).map (·.1) := by
    change (fragments CodePoint.brace? t).flatMap (Fragment.settled drop) = _
    rw [whole, List.flatMap_map, List.map_flatMap]
    exact List.flatMap_congr fun f _ => f.settled_map _ drop
  rw [settled, (Fragment.ascending_placed t).settled_eq_filter, Fragment.items_placed, spans_placed]
  rfl

/-- **Blocks are the innermost pairs, and settling takes away nothing else.** The blocks of a text
go from left to right without touching one another, one for each pair of braces with no brace
between them. Without a skip signal among the arguments every block loses its two braces, with one
it is left out, and every other code point stays in its place. -/
theorem blocks_settled (t : Text) (args : List Value) :
    (blocks t).Pairwise (fun a b => a.start < b.start ∧ a.stop ≤ b.start) ∧
      (∀ s, s ∈ blocks t ↔ s.start < s.stop ∧ t[s.start]? = some .leftBrace ∧
        t[s.stop - 1]? = some .rightBrace ∧
          ∀ k, s.start < k → k < s.stop - 1 → ¬ BraceAt t k) ∧
      ((∀ signal, .skip signal ∉ args) → settleBlocks (Value.containsSkip args) t =
        t.without fun offset => (blocks t).any (·.bounds offset)) ∧
      ((∃ signal, .skip signal ∈ args) → settleBlocks (Value.containsSkip args) t =
        t.without fun offset => (blocks t).any (·.covers offset)) := by
  refine ⟨?_, ?_, ?_, ?_⟩
  · apply (blocks_apart t).imp_of_mem
    intro a b mem _ apart
    have proper := start_lt_stop_of_mem_blocks mem
    exact ⟨by omega, apart⟩
  · intro s
    rw [mem_blocks]
    constructor
    · rintro ⟨start, stop, pair, rfl⟩
      obtain ⟨order, opening, closing, none⟩ := innermostPair_iff.mp pair
      exact ⟨Nat.lt_succ_of_lt order, opening, closing, none⟩
    · rintro ⟨order, opening, closing, none⟩
      have other : s.start ≠ s.stop - 1 := by
        intro same
        rw [← same, opening, Option.some.injEq] at closing
        exact CodePoint.leftBrace_ne_rightBrace closing
      have pair : InnermostPair t s.start (s.stop - 1) :=
        innermostPair_iff.mpr ⟨by omega, opening, closing, none⟩
      have ends : s.stop = s.stop - 1 + 1 := by omega
      exact ⟨s.start, s.stop - 1, pair, by rw [← ends]⟩
  · intro silent
    have kept : Value.containsSkip args = false := by
      apply Bool.eq_false_iff.mpr
      intro signaled
      obtain ⟨signal, mem⟩ := Value.containsSkip_iff.mp signaled
      exact silent signal mem
    rw [kept]
    exact settleBlocks_eq_without false t
  · intro signaled
    rw [Value.containsSkip_iff.mpr signaled]
    exact settleBlocks_eq_without true t

end Template

end SqlTemplate
