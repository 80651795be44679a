import SqlTemplate.Proofs.Binding
import SqlTemplate.Proofs.Outline

/-!
# Braces in values

Blocks are settled after the substitution, so that the braces of bound values count as well. In a
template without braces they are the only ones: `compile_of_braceless` says when they form a block.
-/

namespace SqlTemplate.Template

/-- Around the placeholders of a template without braces, all braces come from the literals. -/
theorem braces_weave {slots : List Slot} {written : List Text}
    (length : written.length = slots.length)
    (plain : ∀ slot ∈ slots, slot.following.braces = []) :
    (weave slots written).braces = Text.braces written.flatten := by
  induction slots generalizing written with
  | nil => simp [weave, List.eq_nil_of_length_eq_zero length]
  | cons slot slots ih =>
    cases written with
    | nil => simp at length
    | cons r written =>
      have others := ih (by simpa using length)
        fun other mem => plain other (List.mem_cons_of_mem _ mem)
      simp only [weave, List.zipWith_cons_cons, List.flatten_cons, Text.braces_append] at others ⊢
      rw [others, plain slot List.mem_cons_self, List.append_nil]

theorem Cuts.braces_eq_nil {t : Template} {start : Nat} {text : Text} (cuts : t.Cuts start text)
    (plain : text.braces = []) :
    t.head.braces = [] ∧ ∀ slot ∈ t.slots, slot.following.braces = [] := by
  rw [← cuts.whole] at plain
  simp only [Text.braces_eq_nil_iff, Template.text, List.mem_append, List.mem_flatMap] at plain ⊢
  exact ⟨fun c hc => plain c (.inl hc), fun slot mem c hc => plain c (.inr ⟨slot, mem, .inr hc⟩)⟩

/-- **A template without braces.** Only the braces of the bound values can form blocks in its query.
They do, and the query changes, if one of the literals opens a brace that it or a later one
closes. -/
theorem compile_of_braceless (table : FormatterTable) (d : Dialect) {text : Text}
    (args : List Value) (plain : text.braces = []) :
    (∀ failure, (compile table d text args).result = .error failure ↔
        (substitute table d text args).result = .error failure) ∧
      ∀ sql, (substitute table d text args).result = .ok sql →
        ∃ written, written.length = (parse text).slots.length ∧
          sql = (parse text).head ++ weave (parse text).slots written ∧
          (∀ (i : Nat) slot, (parse text).slots[i]? = some slot →
            ∃ v r, args[i]? = some v ∧ written[i]? = some r ∧ Writes table d text slot v r) ∧
          (compile table d text args).result =
            .ok (settleBlocks (Value.containsSkip args) sql) ∧
          ((compile table d text args).result = .ok sql ↔ Flat written.flatten) := by
  constructor
  · intro failure
    simp only [compile]
    cases (substitute table d text args).result <;> simp [Except.map]
  · intro sql done
    obtain ⟨written, length, shape, writes⟩ := (substitute_eq_ok table d text args sql).mp done
    have compiled : (compile table d text args).result =
        .ok (settleBlocks (Value.containsSkip args) sql) := by
      simp [compile, done, Except.map]
    refine ⟨written, length, shape, writes, compiled, ?_⟩
    have cuts : (parse text).Cuts 0 text := parseFrom_cuts text 0
    obtain ⟨head, following⟩ := cuts.braces_eq_nil plain
    have same : sql.braces = Text.braces written.flatten := by
      rw [shape, Text.braces_append, head, List.nil_append, braces_weave length following]
    rw [compiled, Except.ok.injEq, settleBlocks_eq_self_iff, flat_congr same]

/-- Braces that turn away from each other are left alone. -/
theorem compile_of_braceless_stray :
    let args : List Value := [.text "\x7dx\x7b"]
    Text.braces "a = ?" = [] ∧
      (substitute .standard .default "a = ?" args).result = .ok "a = '\x7dx\x7b'" ∧
      Flat "'\x7dx\x7b'" ∧
      (compile .standard .default "a = ?" args).result = .ok "a = '\x7dx\x7b'" := by
  intro args
  have plain : Text.braces "a = ?" = [] := by decide
  have done : (substitute .standard .default "a = ?" args).result =
      .ok "a = '\x7dx\x7b'" := rfl
  have flat : Flat "'\x7dx\x7b'" := by decide
  obtain ⟨-, query⟩ := compile_of_braceless .standard .default args plain
  obtain ⟨written, length, shape, -, -, unchanged⟩ := query _ done
  obtain ⟨r, rfl⟩ := List.length_eq_one_iff.mp length
  have around : (parse "a = ?").head ++ weave (parse "a = ?").slots [r] =
      Text.ofString "a = " ++ (r ++ [] ++ []) := rfl
  have bound : Text.ofString "a = '\x7dx\x7b'" =
      Text.ofString "a = " ++ Text.ofString "'\x7dx\x7b'" := by decide
  rw [bound, around, List.append_nil, List.append_nil] at shape
  obtain rfl := List.append_cancel_left shape
  exact ⟨plain, done, flat, unchanged.mpr flat⟩

/-- A pair of braces within one value is lost. -/
theorem compile_strips_value_braces :
    Text.braces "a = ?" = [] ∧
      (substitute .standard .default "a = ?" [.text "\x7bx\x7d"]).result =
        .ok "a = '\x7bx\x7d'" ∧
      (compile .standard .default "a = ?" [.text "\x7bx\x7d"]).result = .ok "a = 'x'" ∧
      (compile .standard .default "a = ?" [.text "\x7bx\x7d"]).result ≠
        (substitute .standard .default "a = ?" [.text "\x7bx\x7d"]).result := by
  have substituted : (substitute .standard .default "a = ?" [.text "\x7bx\x7d"]).result =
      .ok "a = '\x7bx\x7d'" := rfl
  have compiled : (compile .standard .default "a = ?" [.text "\x7bx\x7d"]).result =
      .ok "a = 'x'" := rfl
  refine ⟨rfl, substituted, compiled, ?_⟩
  rw [substituted, compiled, ne_eq, Except.ok.injEq]
  decide

end SqlTemplate.Template
