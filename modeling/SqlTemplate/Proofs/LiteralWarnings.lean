import Mathlib.Data.List.Basic
import SqlTemplate.Proofs.LongestLiteral
import SqlTemplate.Proofs.Pieces
import SqlTemplate.Proofs.WarningOrder

/-!
# Warnings about placeholders in literals

The warnings scan every literal on its own. No placeholder runs across a quote, so that this finds
exactly the placeholders of the whole template that lie in a literal (`literalWarnings_eq`), and
among all warnings they stand in the same order (`placeholders_in_literals`).
-/

namespace SqlTemplate

/-- Whether an offset lies in a literal. -/
def QuotedLiteral.covers (l : QuotedLiteral) (offset : Nat) : Bool :=
  decide (l.offset ≤ offset) && decide (offset < l.offset + l.text.length)

open QuotedLiteral

theorem CodePoint.IsQuote.ofMark?_eq_none {quote : CodePoint} (kind : quote.IsQuote) :
    Token.ofMark? quote = none := by
  rcases kind with rfl | rfl <;> decide

theorem CodePoint.IsQuote.ne_question {quote : CodePoint} (kind : quote.IsQuote) :
    quote ≠ CodePoint.ofChar '?' := by
  rcases kind with rfl | rfl <;> decide

/-- What is found in a reading stands in it. -/
theorem LongestReading.le_offset {offset : Nat} {t : Text} {found : List QuotedLiteral}
    (reading : LongestReading offset t found) {l : QuotedLiteral} (mem : l ∈ found) :
    offset ≤ l.offset := by
  rw [← longestReading_iff.mp reading] at mem
  exact offset_le_of_mem mem

namespace Template

/-- No placeholder runs into a literal, and none runs out of it. -/
theorem placeholdersFrom_literal {l : Text} (literal : IsLiteral l) (before after : Text)
    (offset : Nat) :
    placeholdersFrom offset (before ++ (l ++ after)) =
      placeholdersFrom offset before ++ (placeholdersFrom (offset + before.length) l ++
        placeholdersFrom (offset + before.length + l.length) after) := by
  obtain ⟨quote, body, kind, -, rfl⟩ := literal
  have enters : Separate before (quote :: (body ++ [quote]) ++ after) := by
    intro _ mark first
    obtain rfl := Option.some.inj first
    exact kind.ofMark?_eq_none
  have leaves : Separate (quote :: (body ++ [quote])) after := by
    intro last
    have ends : (quote :: (body ++ [quote])).getLast? = some quote := by
      simp [List.getLast?_cons]
    rw [ends, Option.some.injEq] at last
    exact absurd last kind.ne_question
  rw [placeholdersFrom_append enters, placeholdersFrom_append leaves]

/-- **The literals hold what their own scans find.** The text that has been passed over since the
last literal stands in front, because a placeholder may begin anywhere in it. -/
theorem placeholders_covered {offset : Nat} {t : Text} {found : List QuotedLiteral}
    (reading : LongestReading offset t found) (start : Nat) (passed : Text)
    (place : offset = start + passed.length) :
    (placeholdersFrom start (passed ++ t)).filter (fun p => found.any (·.covers p.2)) =
      found.flatMap fun l => placeholdersFrom l.offset l.text := by
  induction reading generalizing start passed with
  | nil => simp
  | @passed offset c rest found _ _ ih =>
    have place' : offset + 1 = start + (passed ++ [c]).length := by
      rw [List.length_append, List.length_singleton]
      omega
    have others := ih start (passed ++ [c]) place'
    rwa [List.append_assoc, List.singleton_append] at others
  | @literal offset l rest found longest reading ih =>
    have first : (placeholdersFrom start passed).filter
        (fun p => (⟨offset, l⟩ :: found).any (·.covers p.2)) = [] := by
      apply List.filter_eq_nil_iff.mpr
      intro p mem covered
      obtain ⟨l', among, inside⟩ := List.any_eq_true.mp covered
      have low := (mem_placeholdersFrom mem).2
      have high : l'.offset ≤ p.2 := by
        simp only [covers, Bool.and_eq_true, decide_eq_true_eq] at inside
        exact inside.1
      rcases List.mem_cons.mp among with rfl | later
      · simp only at high
        omega
      · have behind := reading.le_offset later
        omega
    have second : (placeholdersFrom offset l).filter
        (fun p => (⟨offset, l⟩ :: found).any (·.covers p.2)) = placeholdersFrom offset l := by
      apply List.filter_eq_self.mpr
      intro p mem
      obtain ⟨low, high⟩ := mem_placeholdersFrom mem
      simp [covers, low, high]
    have third : (placeholdersFrom (offset + l.length) rest).filter
          (fun p => (⟨offset, l⟩ :: found).any (·.covers p.2)) =
        (placeholdersFrom (offset + l.length) rest).filter
          fun p => found.any (·.covers p.2) := by
      apply List.filter_congr
      intro p mem
      have behind := (mem_placeholdersFrom mem).1
      simp [covers, Nat.not_lt.mpr behind]
    have others := ih (offset + l.length) [] rfl
    rw [List.nil_append] at others
    rw [placeholdersFrom_literal longest.literal, ← place, List.filter_append, List.filter_append,
      first, second, third, others, List.nil_append, List.flatMap_cons]

/-- The warning about a placeholder in a literal. -/
def inLiteral (p : Token × Nat) : Warning :=
  .placeholderInLiteral p.2 p.1

/-- **The placeholders warned about** are those that lie in a literal. -/
theorem literalWarnings_eq (t : Text) :
    literalWarnings t = ((placeholdersFrom 0 t).filter fun p =>
      (literals t).any (·.covers p.2)).map inLiteral := by
  have reading : LongestReading 0 t (literals t) := longestReading_literalsFrom t 0
  have covered := placeholders_covered reading 0 [] rfl
  rw [List.nil_append] at covered
  rw [covered, literalWarnings, List.map_flatMap]
  apply List.flatMap_congr
  intro l _
  have moved := placeholdersFrom_add l.offset 0 l.text
  rw [Nat.zero_add, placeholdersFrom_zero] at moved
  simp [moved, inLiteral, Nat.add_comm]

theorem literalWarnings_ascending (t : Text) :
    (literalWarnings t).Pairwise fun a b => a.offset < b.offset := by
  rw [literalWarnings_eq, List.pairwise_map]
  exact (placeholdersFrom_ascending 0 t).filter _

/-- The warnings about literals keep their order among all. -/
theorem ofKind_literal_warnings (t : Text) :
    Warning.ofKind "placeholder_in_literal" (warnings t) = literalWarnings t := by
  have own : Warning.ofKind "placeholder_in_literal" (literalWarnings t) = literalWarnings t := by
    apply Warning.ofKind_eq_self
    intro w mem
    obtain ⟨offset, token, rfl⟩ := of_mem_literalWarnings mem
    rfl
  have other : Warning.ofKind "placeholder_in_literal" (braceWarnings t) = [] := by
    apply Warning.ofKind_eq_nil
    intro w mem
    rcases kind_of_mem_braceWarnings mem with nested | unmatched
    · rw [nested]
      decide
    · rw [unmatched]
      decide
  have found : Warning.ofKind "placeholder_in_literal" (braceWarnings t ++ literalWarnings t) =
      literalWarnings t := by
    rw [Warning.ofKind_append, other, own, List.nil_append]
  have sorted : (Warning.ofKind "placeholder_in_literal"
      (braceWarnings t ++ literalWarnings t)).Pairwise fun a b => a.offset ≤ b.offset := by
    rw [found]
    exact (literalWarnings_ascending t).imp Nat.le_of_lt
  have stable : Warning.ofKind "placeholder_in_literal" (warnings t) = Warning.ofKind _ _ :=
    filter_warnings sorted
  rw [stable, found]

/-- **The warnings about literals are exact.** A template has one reading from left to right into
longest literals. The placeholders that bind arguments and stand in one of these are warned about,
each once and in order, and no other placeholder is. -/
theorem placeholders_in_literals (t : Text) :
    ∃ found, (∀ others, LongestReading 0 t others ↔ others = found) ∧
      Warning.ofKind "placeholder_in_literal" (warnings t) =
        ((parse t).slots.filter fun slot => found.any (·.covers slot.offset)).map
          fun slot => .placeholderInLiteral slot.offset slot.token := by
  refine ⟨literals t, ?_, ?_⟩
  · intro others
    rw [longestReading_iff]
    exact eq_comm
  · rw [ofKind_literal_warnings, literalWarnings_eq, placeholdersFrom_zero, List.filter_map,
      List.map_map]
    rfl

end Template

end SqlTemplate
