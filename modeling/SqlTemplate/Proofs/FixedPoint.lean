import SqlTemplate.Proofs.BraceWarnings
import SqlTemplate.Proofs.OnePass

/-!
# Compiled queries are fixed points

A query without question marks in which no brace opens before one that closes compiles to itself
(`compile_of_flat`). Compiling a template ends in such a query if no block is nested in another one
and no literal brings in a question mark or a brace (`compile_compile`).
-/

namespace SqlTemplate

/-- No brace opens while another one is open. `opened` tells whether one is at the begin. -/
def Shallow (opened : Bool) : List Brace → Prop
  | [] => True
  | .opening :: rest => opened = false ∧ Shallow true rest
  | .closing :: rest => Shallow false rest

namespace Nesting

theorem mem_warnings_run {n : Nesting} {w : Warning} (mem : w ∈ n.warnings) (offset : Nat)
    (t : Text) : w ∈ (n.run offset t).warnings := by
  induction t generalizing n offset with
  | nil => exact mem
  | cons c t ih => exact ih ((mem_warnings_step n offset).mpr (.inl mem)) (offset + 1)

/-- A scan that never finds a nested block has at most one brace open at any time. -/
theorem shallow_of_run {n : Nesting} {offset : Nat} {t : Text} (single : n.opened.length ≤ 1)
    (unnested : ∀ p enclosing, .nestedBlock p enclosing ∉ (n.run offset t).warnings) :
    Shallow (!n.opened.isEmpty) t.braces := by
  induction t generalizing n offset with
  | nil => trivial
  | cons c t ih =>
    rw [run_cons] at unnested
    cases kind : c.brace? with
    | none =>
      rw [step_plain n offset kind] at unnested
      rw [Text.braces_cons_of_none kind]
      exact ih single unnested
    | some brace =>
      cases brace with
      | opening =>
        obtain rfl := CodePoint.brace?_eq_opening.mp kind
        have closed : n.opened = [] := by
          cases opened : n.opened with
          | nil => rfl
          | cons enclosing outer =>
            have nested := (mem_warnings_step n offset).mpr
              (.inr (.inl ⟨rfl, enclosing, by rw [opened, List.head?_cons], rfl⟩))
            exact absurd (mem_warnings_run nested _ t) (unnested offset enclosing)
        have rest := ih (by simp [closed]) unnested
        simp only [opened_step_leftBrace, List.isEmpty_cons, Bool.not_false] at rest
        rw [Text.braces_leftBrace, closed]
        exact ⟨rfl, rest⟩
      | closing =>
        obtain rfl := CodePoint.brace?_eq_closing.mp kind
        have closed : n.opened.tail = [] :=
          List.eq_nil_of_length_eq_zero (by rw [List.length_tail]; omega)
        have rest := ih (by simp [closed]) unnested
        simp only [opened_step_rightBrace, closed, List.isEmpty_nil, Bool.not_true] at rest
        rw [Text.braces_rightBrace]
        exact rest

end Nesting

theorem Template.shallow_of_unnested {t : Text}
    (unnested : ∀ offset, ¬ Reports t "nested_block" offset) : Shallow false t.braces := by
  have none : ∀ offset enclosing,
      .nestedBlock offset enclosing ∉ (Nesting.run ⟨[], []⟩ 0 t).warnings := by
    intro offset enclosing mem
    exact unnested offset ⟨_, mem_warnings.mpr (.inl (Nesting.mem_warnings_scan.mp mem)), rfl, rfl⟩
  have closed : (⟨[], []⟩ : Nesting).opened.length ≤ 1 := Nat.zero_le 1
  exact Nesting.shallow_of_run closed none

/-- Before a block, flat text can only close braces: one that it opened would still be open. -/
theorem Shallow.of_flat_append {opened : Bool} {h rest : List Brace}
    (flat : ¬ [Brace.opening, Brace.closing].Sublist h)
    (shallow : Shallow opened (h ++ .opening :: rest)) :
    Brace.opening ∉ h ∧ Shallow true rest := by
  induction h generalizing opened with
  | nil => exact ⟨List.not_mem_nil, shallow.2⟩
  | cons brace h ih =>
    cases brace with
    | opening =>
      have unclosed : Brace.closing ∉ h := by simpa using flat
      cases h with
      | nil => exact absurd shallow.2.1 (by decide)
      | cons brace h =>
        cases brace with
        | opening => exact absurd shallow.2.1 (by decide)
        | closing => exact absurd List.mem_cons_self unclosed
    | closing =>
      obtain ⟨unopened, rest⟩ := ih (fun pair => flat (pair.cons _)) shallow
      exact ⟨by simpa using unopened, rest⟩

theorem Flat.of_unopened_append {a b : Text} (unopened : Brace.opening ∉ a.braces)
    (flat : Flat b) : Flat (a ++ b) := by
  induction a with
  | nil => exact flat
  | cons c a ih =>
    rw [Text.braces_cons, List.mem_append, not_or] at unopened
    have other : c.brace? ≠ some .opening := by
      intro opening
      simp [opening] at unopened
    exact (flat_cons_of_not_opening other (a ++ b)).mpr (ih unopened.2)

/-- Without nested blocks, the braces left after settling form no pair. -/
theorem Outline.IsCut.flat_settled {o : Outline} {t : Text} (cut : o.IsCut t) {opened : Bool}
    (shallow : Shallow opened t.braces) (drop : Bool) : Flat (o.settled drop) := by
  obtain ⟨head, blocks⟩ := o
  obtain rfl := cut.whole
  induction blocks generalizing head opened with
  | nil => simpa [settled] using cut.head
  | cons b blocks ih =>
    have none := cut.inner b List.mem_cons_self
    rw [text_cons] at shallow
    simp only [Text.braces_append, Text.braces_leftBrace, Text.braces_rightBrace, none,
      List.nil_append] at shallow
    obtain ⟨unopened, rest⟩ := shallow.of_flat_append cut.head
    have others := ih b.following rest cut.tail
    have inner : Brace.opening ∉ Text.braces (if drop then [] else b.inner) := by
      cases drop <;> simp [none]
    have whole : (Outline.mk head (b :: blocks)).settled drop = head ++
        ((if drop then [] else b.inner) ++ (Outline.mk b.following blocks).settled drop) := by
      simp [settled]
    rw [whole]
    exact .of_unopened_append unopened (.of_unopened_append inner others)

namespace Template

/-- **A query without placeholders and pairs compiles to itself**, whatever the arguments. -/
theorem compile_of_flat (table : FormatterTable) (d : Dialect) (args : List Value) {sql : Text}
    (flat : Flat sql) (unasked : CodePoint.ofChar '?' ∉ sql) :
    (compile table d sql args).result = .ok sql := by
  have cuts : (parse sql).Cuts 0 sql := parseFrom_cuts sql 0
  have none : (parse sql).slots = [] := by
    refine List.eq_nil_iff_forall_not_mem.mpr fun slot mem => ?_
    exact unasked (List.mem_of_getElem? (cuts.question mem))
  have whole : (parse sql).head = sql := by
    simpa [Template.text, none] using cuts.whole
  have substituted : (substitute table d sql args).result = .ok sql :=
    (substitute_eq_ok table d sql args sql).mpr ⟨[], by simp [none], by simp [none, whole, weave],
      by simp [none]⟩
  simp [compile, substituted, Except.map, settleBlocks_flat _ flat]

variable {table : FormatterTable} {d : Dialect} {text : Text} {args : List Value} {sql : Text}

/-- The substitution leaves the braces of the template as they are, if no literal holds one. -/
theorem braces_substitute
    (braceless : ∀ (i : Nat) slot v r, (parse text).slots[i]? = some slot → args[i]? = some v →
      Writes table d text slot v r → r.braces = [])
    (done : (substitute table d text args).result = .ok sql) : sql.braces = text.braces := by
  rw [result_substitute, map_eq_ok] at done
  obtain ⟨⟨_, left⟩, filled, rfl⟩ := done
  have plain : Braceless table d (parse text).pieces args :=
    (braceless_plain _ _ _).mpr (braceless_slotPieces braceless)
  rw [fill_braces filled plain, text_pieces, text_parse]

/-- **Compiled queries are fixed points.** In a template without nested blocks, stray braces
included, settling leaves no pair behind, whether the blocks are kept or dropped. So if no literal
holds a question mark or a brace, the query compiles to itself, under every dialect and with every
arguments. -/
theorem compile_compile (unnested : ∀ offset, ¬ Reports text "nested_block" offset)
    (plain : ∀ (i : Nat) slot v r, (parse text).slots[i]? = some slot → args[i]? = some v →
      Writes table d text slot v r → CodePoint.ofChar '?' ∉ r ∧ r.braces = [])
    (compiled : (compile table d text args).result = .ok sql) (table' : FormatterTable)
    (d' : Dialect) (args' : List Value) : (compile table' d' sql args').result = .ok sql := by
  simp only [compile, map_eq_ok] at compiled
  obtain ⟨substituted, done, rfl⟩ := compiled
  have braces := braces_substitute
    (fun i slot v r at_i bound writes => (plain i slot v r at_i bound writes).2) done
  have cuts : (parse text).Cuts 0 text := parseFrom_cuts text 0
  have unasked : CodePoint.ofChar '?' ∉ substituted := by
    intro mem
    rcases mem_substitute done mem with
      head | ⟨slot, among, within⟩ | ⟨i, slot, v, r, at_i, bound, writes, within⟩
    · exact cuts.head head
    · exact cuts.following slot among within
    · exact (plain i slot v r at_i bound writes).1 within
  have shallow : Shallow false substituted.braces := braces ▸ shallow_of_unnested unnested
  refine compile_of_flat table' d' args' ?_ fun mem => unasked (mem_of_mem_settleBlocks _ mem)
  obtain ⟨o, cut⟩ := Outline.exists_isCut substituted
  rw [cut.settleBlocks_eq]
  exact cut.flat_settled shallow _

/-- Stray braces around a block that is left out. -/
theorem compile_compile_dropped :
    (compile .standard .default "\x7d?\x7b?\x7d\x7b" [.bool true, .skip ⟨0⟩]).result =
        .ok "\x7d1\x7b" ∧
      (compile .standard .default "\x7d1\x7b" [.skip ⟨1⟩]).result = .ok "\x7d1\x7b" := by
  have slots : (parse "\x7d?\x7b?\x7d\x7b").slots =
      [⟨.any, 1, "\x7b"⟩, ⟨.any, 3, "\x7d\x7b"⟩] := by decide
  have unnested : ∀ offset, ¬ Reports "\x7d?\x7b?\x7d\x7b" "nested_block" offset := by
    rintro offset ⟨w, mem, kind, -⟩
    have known : ∀ w ∈ braceWarnings "\x7d?\x7b?\x7d\x7b" ++
        literalWarnings "\x7d?\x7b?\x7d\x7b", w.kind ≠ "nested_block" := by decide
    exact known w (List.mem_mergeSort.mp mem) kind
  have plain : ∀ (i : Nat) slot v r,
      (parse "\x7d?\x7b?\x7d\x7b").slots[i]? = some slot →
      [Value.bool true, Value.skip ⟨0⟩][i]? = some v →
      Writes .standard .default "\x7d?\x7b?\x7d\x7b" slot v r →
      CodePoint.ofChar '?' ∉ r ∧ r.braces = [] := by
    intro i slot v r at_i bound writes
    rw [slots] at at_i
    cases writes with
    | dropped => exact ⟨List.not_mem_nil, rfl⟩
    | formatted skip known written =>
      match i with
      | 0 =>
        cases at_i
        cases bound
        cases known
        cases written
        decide
      | 1 =>
        cases bound
        simp [Value.isSkip] at skip
      | i + 2 => simp at bound
  have compiled : (compile .standard .default "\x7d?\x7b?\x7d\x7b"
      [.bool true, .skip ⟨0⟩]).result = .ok "\x7d1\x7b" := rfl
  exact ⟨compiled, compile_compile unnested plain compiled .standard .default [.skip ⟨1⟩]⟩

end Template

end SqlTemplate
