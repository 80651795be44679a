import SqlTemplate.Proofs.Binding
import SqlTemplate.Proofs.Formatters
import SqlTemplate.Proofs.Outline

/-!
# Where the code points of a query come from

Under the default escape every code point of a query is ASCII, the identifier quote, or one of the
template or of a string in an argument (`Template.mem_compile`).
-/

namespace SqlTemplate

namespace Dialect

theorem escapeCodePoint_cases (c : CodePoint) :
    Text.Ascii (escapeCodePoint c) ∨ escapeCodePoint c = [c] := by
  unfold escapeCodePoint
  repeat' split
  all_goals first
    | exact .inr rfl
    | exact .inl (by decide)

theorem mem_escapeText {t : Text} {x : CodePoint} (mem : x ∈ escapeText t) :
    x.val < 0x80 ∨ x ∈ t := by
  obtain ⟨c, among, within⟩ := List.mem_flatMap.mp mem
  rcases escapeCodePoint_cases c with ascii | same
  · exact .inl (ascii x within)
  · rw [same, List.mem_singleton] at within
    exact .inr (within ▸ among)

theorem mem_enclose {d : Dialect} {escaped : Text} {x : CodePoint} (mem : x ∈ d.enclose escaped) :
    x = d.quote ∨ x ∈ escaped := by
  rcases List.mem_cons.mp mem with first | rest
  · exact .inl first
  rcases List.mem_append.mp rest with inside | last
  · obtain ⟨c, among, within⟩ := List.mem_flatMap.mp inside
    split at within <;> simp_all
  · exact .inl (List.mem_singleton.mp last)

end Dialect

theorem Text.mem_quoted {t : Text} {x : CodePoint} (mem : x ∈ t.quoted) : x.val < 0x80 ∨ x ∈ t := by
  simp only [quoted, List.cons_append, List.mem_cons, List.mem_append, List.not_mem_nil,
    or_false] at mem
  rcases mem with rfl | among | rfl
  · exact .inl (by decide)
  · exact .inr among
  · exact .inl (by decide)

section
variable {quote : CodePoint}

/-- What is written of a draft that is put together from some texts. -/
theorem Draft.Built.mem_render {texts : List Text} {draft : Draft} (built : draft.Built texts)
    {sql : Text} (written : (draft.render ⟨Dialect.defaultEscape, quote⟩).result = .ok sql)
    {x : CodePoint} (mem : x ∈ sql) : x.val < 0x80 ∨ x = quote ∨ ∃ t ∈ texts, x ∈ t := by
  induction built generalizing sql with
  | empty =>
    cases written
    simp at mem
  | sql ascii =>
    rw [render_sql, Except.ok.injEq] at written
    exact .inl (ascii x (written ▸ mem))
  | mismatch => simp at written
  | string held =>
    rw [render_string] at written
    obtain rfl := Except.ok.inj written
    rcases Text.mem_quoted mem with ascii | escaped
    · exact .inl ascii
    · exact (Dialect.mem_escapeText escaped).imp_right fun raw => .inr ⟨_, held, raw⟩
  | name held =>
    rw [render_name] at written
    obtain rfl := Except.ok.inj written
    rcases Dialect.mem_enclose mem with same | escaped
    · exact .inr (.inl same)
    · exact (Dialect.mem_escapeText escaped).imp_right fun raw => .inr ⟨_, held, raw⟩
  | append _ _ first second =>
    rw [render_append] at written
    obtain ⟨left, right, leftWritten, rightWritten, rfl⟩ :=
      Rendering.result_andThen_eq_ok.mp written
    rcases List.mem_append.mp mem with inLeft | inRight
    · exact first leftWritten inLeft
    · exact second rightWritten inRight

namespace Template

variable {table : FormatterTable} {text : Text} {args : List Value}

theorem Writes.mem (known : table.Known) {slot : Slot} {v : Value} {r : Text}
    (writes : Writes table ⟨Dialect.defaultEscape, quote⟩ text slot v r) {x : CodePoint}
    (mem : x ∈ r) : x.val < 0x80 ∨ x = quote ∨ ∃ t ∈ v.texts, x ∈ t := by
  cases writes with
  | dropped => simp at mem
  | formatted value found written =>
    obtain ⟨memory, kind, rfl⟩ := known _ _ found
    refine (Format.built_formatter fun cause faulty => ?_).mem_render written mem
    -- what cannot be converted is not written
    rw [faulty.formatter_eq] at written
    cases written

/-- A text is made up of what stands around its placeholders, and of these. -/
theorem mem_of_mem_parse {x : CodePoint}
    (mem : x ∈ (parse text).head ∨ ∃ slot ∈ (parse text).slots, x ∈ slot.following) : x ∈ text := by
  rw [← text_parse text, Template.text]
  rcases mem with head | ⟨slot, among, following⟩
  · exact List.mem_append_left _ head
  · exact List.mem_append_right _
      (List.mem_flatMap.mpr ⟨slot, among, List.mem_append_right _ following⟩)

/-- **Provenance.** A query holds nothing but ASCII, the identifier quote, and code points of the
template and of the strings in its arguments. -/
theorem mem_compile (known : table.Known) {sql : Text}
    (done : (compile table ⟨Dialect.defaultEscape, quote⟩ text args).result = .ok sql)
    {x : CodePoint} (mem : x ∈ sql) :
    x.val < 0x80 ∨ x = quote ∨ x ∈ text ∨ ∃ v ∈ args, ∃ t ∈ v.texts, x ∈ t := by
  obtain ⟨substituted, filled, rfl⟩ := map_eq_ok.mp done
  rcases mem_substitute filled (mem_of_mem_settleBlocks _ mem) with
    head | following | ⟨i, slot, v, r, -, bound, writes, within⟩
  · exact .inr (.inr (.inl (mem_of_mem_parse (.inl head))))
  · exact .inr (.inr (.inl (mem_of_mem_parse (.inr following))))
  · rcases writes.mem known within with ascii | same | held
    · exact .inl ascii
    · exact .inr (.inl same)
    · exact .inr (.inr (.inr ⟨v, List.mem_of_getElem? bound, held⟩))

end Template

end

end SqlTemplate
