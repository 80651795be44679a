import Mathlib.Data.Finset.Card
import SqlTemplate.Proofs.BlockRemoval
import SqlTemplate.Proofs.LiteralWarnings

/-!
# The unmatched braces are the least repair

Without its unmatched braces a text is balanced (`balanced_without_unmatched`). That takes as many
deletions as braces are left without a partner, because deleting one code point changes their number
by one at most (`run_sublist`). So no smaller set of braces does (`unmatched_le_card`).
-/

namespace SqlTemplate

/-- How many braces of a sequence have no partner: those that close nothing, and those that nothing
closes. -/
structure Unpaired where
  closings : Nat
  openings : Nat
  deriving DecidableEq

namespace Unpaired

def step (u : Unpaired) : Brace → Unpaired
  | .opening => ⟨u.closings, u.openings + 1⟩
  | .closing => if u.openings = 0 then ⟨u.closings + 1, 0⟩ else ⟨u.closings, u.openings - 1⟩

/-- The count after some more braces. -/
def run (u : Unpaired) (braces : List Brace) : Unpaired :=
  braces.foldl step u

def total (u : Unpaired) : Nat :=
  u.closings + u.openings

/-- How far two counts are apart. -/
def apart (u v : Unpaired) : Nat :=
  (u.closings - v.closings) + (v.closings - u.closings) +
    ((u.openings - v.openings) + (v.openings - u.openings))

theorem run_append (u : Unpaired) (a b : List Brace) : u.run (a ++ b) = (u.run a).run b :=
  List.foldl_append

/-- The same brace moves no two counts apart. -/
theorem apart_step_step (u v : Unpaired) (brace : Brace) :
    apart (u.step brace) (v.step brace) ≤ apart u v := by
  cases brace with
  | opening =>
    simp only [apart, step]
    omega
  | closing =>
    simp only [apart, step]
    split <;> split <;> simp only <;> omega

/-- A brace that only one of two counts sees moves them apart by one. -/
theorem apart_step (u v : Unpaired) (brace : Brace) :
    apart (u.step brace) v ≤ apart u v + 1 := by
  cases brace with
  | opening =>
    simp only [apart, step]
    omega
  | closing =>
    simp only [apart, step]
    split <;> simp only <;> omega

/-- **Each deletion changes the count by one at most.** -/
theorem run_sublist {a b : List Brace} (sub : a.Sublist b) (u v : Unpaired) :
    apart (u.run b) (v.run a) + a.length ≤ apart u v + b.length := by
  induction sub generalizing u v with
  | slnil => exact Nat.le_refl _
  | @cons a b brace _ ih =>
    have others : apart ((u.step brace).run b) (v.run a) + a.length ≤
        apart (u.step brace) v + b.length := ih _ _
    have one := apart_step u v brace
    rw [List.length_cons]
    change apart ((u.step brace).run b) (v.run a) + a.length ≤ _
    omega
  | @cons_cons a b brace _ ih =>
    have others : apart ((u.step brace).run b) ((v.step brace).run a) + a.length ≤
        apart (u.step brace) (v.step brace) + b.length := ih _ _
    have same := apart_step_step u v brace
    rw [List.length_cons, List.length_cons]
    change apart ((u.step brace).run b) ((v.step brace).run a) + _ ≤ _
    omega

/-- Balanced braces leave none without a partner. -/
theorem run_of_balanced {braces : List Brace} (balanced : Balanced braces) (u : Unpaired) :
    u.run braces = u := by
  induction balanced generalizing u with
  | nil => rfl
  | @pair before inner _ _ outer nested =>
    have opened : (u.run before).run (.opening :: (inner ++ [.closing])) =
        (((u.run before).step .opening).run inner).step .closing := by
      rw [← List.singleton_append, run_append, run_append]
      rfl
    rw [run_append, opened, nested, outer]
    simp [step]

/-- A balanced rest is short of the whole by the braces without a partner at least. -/
theorem total_le_of_balanced {a b : List Brace} (sub : a.Sublist b) (balanced : Balanced a) :
    (run ⟨0, 0⟩ b).total + a.length ≤ b.length := by
  have bound := run_sublist sub ⟨0, 0⟩ ⟨0, 0⟩
  rw [run_of_balanced balanced] at bound
  simpa [apart, total] using bound

end Unpaired

namespace Nesting

/-- The offsets of the braces that the scan has found no partner for. -/
def unmatched (n : Nesting) : List Nat :=
  (Warning.ofKind "unmatched_brace" n.warnings).map Warning.offset ++ n.opened

/-- What the scan has counted. -/
def unpaired (n : Nesting) : Unpaired :=
  ⟨(Warning.ofKind "unmatched_brace" n.warnings).length, n.opened.length⟩

theorem length_unmatched (n : Nesting) : n.unmatched.length = n.unpaired.total := by
  simp [unmatched, unpaired, Unpaired.total]

theorem ofKind_nestedBlock (offset enclosing : Nat) (ws : List Warning) :
    Warning.ofKind "unmatched_brace" (.nestedBlock offset enclosing :: ws) =
      Warning.ofKind "unmatched_brace" ws := by
  have other : Text.ofString "nested_block" ≠ "unmatched_brace" := by decide
  exact List.filter_cons_of_neg fun same => other (of_decide_eq_true same)

theorem ofKind_unopened (offset : Nat) (ws : List Warning) :
    Warning.ofKind "unmatched_brace" (.unopened offset :: ws) =
      .unopened offset :: Warning.ofKind "unmatched_brace" ws :=
  List.filter_cons_of_pos (by rfl)

theorem unpaired_step (n : Nesting) (c : CodePoint) (offset : Nat) :
    (n.step (c, offset)).unpaired = n.unpaired.run c.brace?.toList := by
  obtain ⟨opened, warnings⟩ := n
  cases kind : c.brace? with
  | none =>
    rw [step_plain _ offset kind]
    rfl
  | some brace =>
    cases brace <;> cases opened <;>
      simp [step, kind, unpaired, Unpaired.run, Unpaired.step, ofKind_nestedBlock, ofKind_unopened]

/-- An opening brace has no partner yet. -/
theorem mem_unmatched_step_leftBrace {n : Nesting} {offset p : Nat} :
    p ∈ (n.step (.leftBrace, offset)).unmatched ↔ p = offset ∨ p ∈ n.unmatched := by
  have same : Warning.ofKind "unmatched_brace" (n.step (.leftBrace, offset)).warnings =
      Warning.ofKind "unmatched_brace" n.warnings := by
    obtain ⟨_ | ⟨enclosing, outer⟩, warnings⟩ := n
    · rfl
    · exact ofKind_nestedBlock offset enclosing warnings
  rw [unmatched, same, opened_step_leftBrace, unmatched, List.mem_append, List.mem_append,
    List.mem_cons, or_left_comm]

/-- A closing brace finds none if nothing is open. -/
theorem mem_unmatched_step_rightBrace {n : Nesting} {offset p : Nat} (none : n.opened = []) :
    p ∈ (n.step (.rightBrace, offset)).unmatched ↔ p = offset ∨ p ∈ n.unmatched := by
  obtain ⟨opened, warnings⟩ := n
  obtain rfl : opened = [] := none
  have more : (Nesting.step ⟨[], warnings⟩ (.rightBrace, offset)).unmatched =
      offset :: (Nesting.mk [] warnings).unmatched := by
    simp only [step, unmatched, CodePoint.brace?_rightBrace, ofKind_unopened]
    rfl
  rw [more, List.mem_cons]

theorem unpaired_run (n : Nesting) (offset : Nat) (t : Text) :
    (n.run offset t).unpaired = n.unpaired.run t.braces := by
  induction t generalizing n offset with
  | nil => rfl
  | cons c t ih => rw [run_cons, ih, unpaired_step, Text.braces_cons, Unpaired.run_append]

theorem warnings_suffix_run (n : Nesting) (offset : Nat) (t : Text) :
    n.warnings <:+ (n.run offset t).warnings := by
  induction t generalizing n offset with
  | nil => exact List.suffix_refl _
  | cons c t ih =>
    have one : n.warnings <:+ (n.step (c, offset)).warnings := by
      rcases warnings_step n c offset with same | ⟨w, -, more⟩
      · exact same ▸ List.suffix_refl _
      · exact more ▸ List.suffix_cons w _
    rw [run_cons]
    exact one.trans (ih _ _)

/-- **Balanced text leaves the unmatched braces as they are.** -/
theorem unmatched_scan_append {b : Text} (balanced : Balanced b.braces) (a : Text) :
    (scan (a ++ b)).unmatched = (scan a).unmatched := by
  have opened : (scan (a ++ b)).opened = (scan a).opened := by
    rw [scan_append]
    exact opened_run_of_balanced balanced _ _ rfl
  have more : Warning.ofKind "unmatched_brace" (scan a).warnings <:+
      Warning.ofKind "unmatched_brace" (scan (a ++ b)).warnings := by
    rw [scan_append]
    exact (warnings_suffix_run _ _ _).filter _
  have count : (scan (a ++ b)).unpaired = (scan a).unpaired := by
    rw [scan_append, unpaired_run, Unpaired.run_of_balanced balanced]
  have same := more.eq_of_length (congrArg Unpaired.closings count).symm
  rw [unmatched, unmatched, opened, same]

theorem lt_length_of_mem_unmatched {t : Text} {p : Nat} (mem : p ∈ (scan t).unmatched) :
    p < t.length := by
  rcases List.mem_append.mp mem with unopened | opened
  · obtain ⟨w, found, rfl⟩ := List.mem_map.mp unopened
    exact (mem_warnings_scan.mp (Warning.mem_ofKind.mp found).1).offset_lt
  · exact lt_length_of_mem_opened opened

/-- A text without the braces that the scan finds no partner for. -/
def repaired (t : Text) : Text :=
  t.without fun p => decide (p ∈ (scan t).unmatched)

/-- Balanced text behind another one is kept whole. -/
theorem repaired_append {b : Text} (balanced : Balanced b.braces) (a : Text) :
    repaired (a ++ b) = repaired a ++ b := by
  have kept : b.without (fun p => decide (a.length + p ∈ (scan a).unmatched)) = b := by
    have none : ∀ p < b.length, decide (a.length + p ∈ (scan a).unmatched) = false := by
      intro p _
      apply decide_eq_false
      intro mem
      have bound := lt_length_of_mem_unmatched mem
      omega
    rw [Text.without_congr none, Text.without_none]
  rw [repaired, unmatched_scan_append balanced, Text.without_append, kept, ← repaired]

/-- A last code point without a partner is deleted. -/
theorem repaired_concat {t : Text} {c : CodePoint}
    (alone : ∀ p, p ∈ (scan (t ++ [c])).unmatched ↔ p = t.length ∨ p ∈ (scan t).unmatched) :
    repaired (t ++ [c]) = repaired t := by
  have last : Text.without [c] (fun p => decide (t.length + p ∈ (scan (t ++ [c])).unmatched)) =
      [] := by
    have gone : t.length ∈ (scan (t ++ [c])).unmatched := (alone t.length).mpr (.inl rfl)
    simp [Text.without, gone]
  have others : t.without (fun p => decide (p ∈ (scan (t ++ [c])).unmatched)) = repaired t := by
    apply Text.without_congr
    intro p bound
    have other : p ≠ t.length := Nat.ne_of_lt bound
    simp [alone, other]
  rw [repaired, Text.without_append, last, others, List.append_nil]

/-- **Without its unmatched braces a text is balanced.** A closing brace that finds a partner makes
a pair, and all behind it is balanced already. -/
theorem balanced_repaired (t : Text) : Balanced (repaired t).braces := by
  induction size : t.length using Nat.strongRecOn generalizing t with
  | ind n ih =>
    rcases List.eq_nil_or_concat t with rfl | ⟨t, c, rfl⟩
    · exact .nil
    · rw [List.concat_eq_append] at size ⊢
      rw [List.length_append, List.length_singleton] at size
      have before : Balanced (repaired t).braces := ih t.length (by omega) t rfl
      cases kind : c.brace? with
      | none =>
        have plain : Text.braces [c] = [] := Text.braces_cons_of_none kind []
        rw [repaired_append (plain ▸ .nil), Text.braces_append, plain, List.append_nil]
        exact before
      | some brace =>
        cases brace with
        | opening =>
          obtain rfl := CodePoint.brace?_eq_opening.mp kind
          rw [repaired_concat]
          · exact before
          · intro p
            rw [scan_concat]
            exact mem_unmatched_step_leftBrace
        | closing =>
          obtain rfl := CodePoint.brace?_eq_closing.mp kind
          cases opened : (scan t).opened with
          | nil =>
            rw [repaired_concat]
            · exact before
            · intro p
              rw [scan_concat]
              exact mem_unmatched_step_rightBrace opened
          | cons start outer =>
            obtain ⟨front, inner, rfl, balanced, -, -⟩ := opened_scan_eq_cons_iff.mp opened
            have pair : Balanced (Text.braces (.leftBrace :: (inner ++ [.rightBrace]))) := by
              simpa using Balanced.nil.pair balanced
            have shorter : front.length < n := by
              rw [List.length_append] at size
              omega
            rw [List.append_assoc, List.cons_append, repaired_append pair, Text.braces_append]
            have outside := ih front.length shorter front rfl
            simpa using outside.pair balanced

theorem nodup_unmatched (t : Text) : (scan t).unmatched.Nodup := by
  have unopened : ((Warning.ofKind "unmatched_brace" (scan t).warnings).map
      Warning.offset).Nodup :=
    (nodup_offset_warnings t).sublist (List.filter_sublist.map _)
  refine List.nodup_append.mpr ⟨unopened, nodup_opened t, ?_⟩
  rintro p first _ second rfl
  obtain ⟨w, found, rfl⟩ := List.mem_map.mp first
  obtain ⟨mem, kind⟩ := Warning.mem_ofKind.mp found
  have flaw := mem_warnings_scan.mp mem
  obtain ⟨offset, rfl | rfl⟩ := Warning.kind_eq_unmatched_iff.mp kind
  · cases flaw with
    | unopened closing =>
      have opening := (mem_opened_scan.mp second).1
      rw [Warning.offset, closing, Option.some.injEq] at opening
      exact CodePoint.rightBrace_ne_leftBrace opening
  · nomatch flaw

end Nesting

/-- A deletion takes at most as many braces away as code points. -/
theorem Text.length_braces_le {a b : Text} (sub : a.Sublist b) :
    b.braces.length + a.length ≤ a.braces.length + b.length := by
  induction sub with
  | slnil => exact Nat.le_refl _
  | @cons a b c _ ih =>
    have one : c.brace?.toList.length ≤ 1 := by cases c.brace? <;> simp
    rw [Text.braces_cons, List.length_append, List.length_cons]
    omega
  | @cons_cons a b c _ ih =>
    rw [Text.braces_cons, Text.braces_cons, List.length_append, List.length_append,
      List.length_cons, List.length_cons]
    omega

/-- A set of offsets takes at most as many code points away as it holds. -/
theorem Text.length_le_without (t : Text) (gone : Finset Nat) :
    t.length ≤ (t.without fun p => decide (p ∈ gone)).length + gone.card := by
  have split := List.length_eq_length_filter_add
    (l := t.zipIdx) fun item => !decide (item.2 ∈ gone)
  have deleted : (t.zipIdx.filter fun item => !!decide (item.2 ∈ gone)).length ≤ gone.card := by
    have offsets : ((t.zipIdx.filter fun item => !!decide (item.2 ∈ gone)).map (·.2)).Nodup := by
      have all : (t.zipIdx.map (·.2)).Nodup := by
        rw [List.zipIdx_map_snd]
        exact List.nodup_range'
      exact all.sublist (List.filter_sublist.map _)
    have within : ((t.zipIdx.filter fun item => !!decide (item.2 ∈ gone)).map (·.2)).toFinset ⊆
        gone := by
      intro p mem
      obtain ⟨item, found, rfl⟩ := List.mem_map.mp (List.mem_toFinset.mp mem)
      simpa using (List.mem_filter.mp found).2
    have card := Finset.card_le_card within
    rwa [List.toFinset_card_of_nodup offsets, List.length_map] at card
  rw [List.length_zipIdx] at split
  rw [without, List.length_map]
  omega

namespace Template

/-- The offsets at which a brace is reported as unmatched. -/
def unmatched (t : Text) : List Nat :=
  (Warning.ofKind "unmatched_brace" (warnings t)).map Warning.offset

variable {t : Text}

theorem mem_unmatched {p : Nat} : p ∈ unmatched t ↔ Reports t "unmatched_brace" p := by
  simp only [unmatched, List.mem_map, Warning.mem_ofKind, Reports, and_assoc]

/-- The report names what the scan has found no partner for. -/
theorem unmatched_perm (t : Text) : (unmatched t).Perm (Nesting.scan t).unmatched := by
  have unclosed : Warning.ofKind "unmatched_brace"
      ((Nesting.scan t).opened.reverse.map Warning.unclosed) =
        (Nesting.scan t).opened.reverse.map Warning.unclosed := by
    apply Warning.ofKind_eq_self
    intro w mem
    obtain ⟨start, -, rfl⟩ := List.mem_map.mp mem
    rfl
  have literal : Warning.ofKind "unmatched_brace" (literalWarnings t) = [] := by
    apply Warning.ofKind_eq_nil
    intro w mem
    obtain ⟨offset, token, rfl⟩ := of_mem_literalWarnings mem
    simp only [Warning.kind]
    decide
  have found : Warning.ofKind "unmatched_brace" (braceWarnings t ++ literalWarnings t) =
      (Warning.ofKind "unmatched_brace" (Nesting.scan t).warnings).reverse ++
        (Nesting.scan t).opened.reverse.map Warning.unclosed := by
    rw [Warning.ofKind_append, literal, List.append_nil, braceWarnings, Warning.ofKind_append,
      unclosed, Warning.ofKind, List.filter_reverse, ← Warning.ofKind]
  have offsets : Warning.offset ∘ Warning.unclosed = id := rfl
  have kept : (Warning.ofKind "unmatched_brace" (warnings t)).Perm
      (Warning.ofKind "unmatched_brace" (braceWarnings t ++ literalWarnings t)) :=
    (warnings_perm t).filter _
  rw [found] at kept
  have named := kept.map Warning.offset
  rw [List.map_append, List.map_reverse, List.map_map, offsets, List.map_id] at named
  exact named.trans ((List.reverse_perm _).append (List.reverse_perm _))

theorem nodup_unmatched (t : Text) : (unmatched t).Nodup :=
  (unmatched_perm t).nodup_iff.mpr (Nesting.nodup_unmatched t)

/-- **Deleting the unmatched braces repairs a text.** -/
theorem balanced_without_unmatched (t : Text) :
    Balanced (t.without fun p => decide (p ∈ unmatched t)).braces := by
  have same : (fun p => decide (p ∈ unmatched t)) =
      fun p => decide (p ∈ (Nesting.scan t).unmatched) := by
    funext p
    exact decide_eq_decide.mpr (unmatched_perm t).mem_iff
  rw [same]
  exact Nesting.balanced_repaired t

/-- **No smaller set of offsets repairs it.** -/
theorem unmatched_le_card {gone : Finset Nat}
    (balanced : Balanced (t.without fun p => decide (p ∈ gone)).braces) :
    (unmatched t).length ≤ gone.card := by
  have sub := t.without_sublist fun p => decide (p ∈ gone)
  have least := Unpaired.total_le_of_balanced (sub.filterMap CodePoint.brace?) balanced
  have braces := Text.length_braces_le sub
  have points := t.length_le_without gone
  have count : (unmatched t).length = (Unpaired.run ⟨0, 0⟩ t.braces).total := by
    rw [(unmatched_perm t).length_eq, Nesting.length_unmatched]
    exact congrArg Unpaired.total (Nesting.unpaired_run ⟨[], []⟩ 0 t)
  rw [count]
  unfold Text.braces at braces least ⊢
  omega

/-- The enclosing brace that a nested opening names is the last one still open. -/
theorem nestedBlock_mem_warnings_iff {p enclosing : Nat} :
    .nestedBlock p enclosing ∈ warnings t ↔ t[p]? = some .leftBrace ∧
      StillOpen t enclosing p ∧ ∀ start, StillOpen t start p → start ≤ enclosing := by
  rw [nestedBlock_mem_warnings]
  simp only [← mem_opened_take]
  have descending := Nesting.opened_scan_descending (t.take p)
  refine and_congr_right fun _ => ?_
  cases opened : (Nesting.scan (t.take p)).opened with
  | nil => simp
  | cons top outer =>
    rw [opened] at descending
    have below := (List.pairwise_cons.mp descending).1
    rw [List.head?_cons, Option.some.injEq]
    constructor
    · rintro rfl
      refine ⟨List.mem_cons_self, ?_⟩
      intro start mem
      rcases List.mem_cons.mp mem with rfl | mem
      · exact Nat.le_refl _
      · exact Nat.le_of_lt (below start mem)
    · rintro ⟨mem, last⟩
      rcases List.mem_cons.mp mem with same | mem
      · exact same.symm
      · have later := last top List.mem_cons_self
        have earlier := below enclosing mem
        omega

theorem nodup_warnings (t : Text) : (warnings t).Nodup := by
  have literal : (literalWarnings t).Nodup := by
    apply (literalWarnings_ascending t).imp
    rintro a b order rfl
    exact Nat.lt_irrefl _ order
  rw [(warnings_perm t).nodup_iff, List.nodup_append]
  refine ⟨nodup_braceWarnings t, literal, ?_⟩
  rintro w first _ second rfl
  obtain ⟨offset, token, rfl⟩ := of_mem_literalWarnings second
  rcases mem_braceWarnings.mp first with flaw | ⟨start, -, same⟩
  · nomatch flaw
  · nomatch same

/-- **The warnings are a least repair, in the order of the text.** The unmatched braces are named
once each, the text without them is balanced, and no smaller set of offsets has this effect. Which
opening braces are nested, and in which brace, is told by what is still open before them. The
warnings of both kinds are all listed by offset, each once, and where two name one brace the nested
opening comes first. -/
theorem warnings_repair_in_order (t : Text) :
    ((unmatched t).Nodup ∧ (∀ p ∈ unmatched t, BraceAt t p) ∧
      Balanced (t.without fun p => decide (p ∈ unmatched t)).braces ∧
      ∀ gone : Finset Nat, Balanced (t.without fun p => decide (p ∈ gone)).braces →
        (unmatched t).length ≤ gone.card) ∧
    ((∀ p, Reports t "nested_block" p ↔ t[p]? = some .leftBrace ∧ ∃ start, StillOpen t start p) ∧
      ∀ p enclosing, .nestedBlock p enclosing ∈ warnings t ↔ t[p]? = some .leftBrace ∧
        StillOpen t enclosing p ∧ ∀ start, StillOpen t start p → start ≤ enclosing) ∧
    (warnings t).Perm (braceWarnings t ++ literalWarnings t) ∧ (warnings t).Nodup ∧
      ((warnings t).Pairwise fun a b => a.offset ≤ b.offset) ∧
      (warnings t).Pairwise fun a b : Warning =>
        a.offset = b.offset → a.kind = "unmatched_brace" → b.kind ≠ "nested_block" := by
  have braces : ∀ p ∈ unmatched t, BraceAt t p := by
    intro p mem
    have reported := reports_unmatched_iff.mp (mem_unmatched.mp mem)
    exact reported.imp And.left And.left
  refine ⟨⟨nodup_unmatched t, braces, balanced_without_unmatched t, ?_⟩, ⟨?_, ?_⟩,
    warnings_perm t, nodup_warnings t, warnings_sorted t, warnings_nested_first t⟩
  · intro gone balanced
    exact unmatched_le_card balanced
  · intro p
    exact reports_nested_iff
  · intro p enclosing
    exact nestedBlock_mem_warnings_iff

end Template

end SqlTemplate
