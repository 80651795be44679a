import SqlTemplate.Proofs.Binding
import SqlTemplate.Proofs.Formatters
import SqlTemplate.Proofs.Separated

/-!
# Values stay within their literals

Under the default escape a string is written as one literal, whatever it holds
(`quotable_escapeText`), and everything else without quotes.
-/

namespace SqlTemplate

open QuotedLiteral

theorem quotable_escapeCodePoint (c : CodePoint) :
    Quotable (CodePoint.ofChar '\x27') (Dialect.escapeCodePoint c) := by
  unfold Dialect.escapeCodePoint
  repeat' split
  all_goals first
    | exact .escape _ .nil
    | exact .plain ‹_› ‹_› .nil

/-- An escaped string can stand between single quotes. -/
theorem quotable_escapeText (t : Text) :
    Quotable (CodePoint.ofChar '\x27') (Dialect.escapeText t) := by
  induction t with
  | nil => exact .nil
  | cons c t ih => exact (quotable_escapeCodePoint c).append ih

/-- The strings that a placeholder shows of its argument. -/
def Value.shown (v : Value) : Token → List Text
  | .any => v.shown?.toList
  | .list =>
    match v with
    | .list items | .tuple items => items.filterMap Value.shown?
    | _ => []
  | _ => []

/-- The literals of a text are those of some strings, in order. -/
structure Contains (written : Text) (strings : List Text) : Prop where
  lexable : Lexable written
  literals : (Template.literals written).map (·.text) =
    strings.map fun t => (Dialect.escapeText t).quoted

namespace Contains

theorem of_quoteless {written : Text} (plain : ∀ c ∈ written, ¬ c.IsQuote) :
    Contains written [] := by
  obtain ⟨lexable, none⟩ := Lexable.of_no_quote plain
  exact ⟨lexable, by rw [none]; rfl⟩

theorem of_string (t : Text) : Contains (Dialect.escapeText t).quoted [t] := by
  obtain ⟨lexable, one⟩ := Lexable.of_quoted (quotable_escapeText t)
  exact ⟨lexable, by rw [one]; rfl⟩

theorem append {a b : Text} {first second : List Text} (left : Contains a first)
    (right : Contains b second)
    (apart : ∀ quote, quote.IsQuote → a.getLast? = some quote → b.head? ≠ some quote) :
    Contains (a ++ b) (first ++ second) := by
  obtain ⟨lexable, both⟩ := left.lexable.append right.lexable apart
  refine ⟨lexable, ?_⟩
  have same : (fun l => QuotedLiteral.text (moved a.length l)) = QuotedLiteral.text := rfl
  simp [both, left.literals, ← right.literals, same, Function.comp_def]

end Contains

namespace Format

variable {quote : CodePoint} {v : Value} {text : Text}

theorem contains_sql {sql : Text} (bare : sql.Bare)
    (written : ((Draft.sql sql).render ⟨Dialect.defaultEscape, quote⟩).result = .ok text) :
    Contains text [] := by
  rw [Draft.render_sql, Except.ok.injEq] at written
  exact written ▸ .of_quoteless bare.not_isQuote

theorem contains_string {raw : Text}
    (written : ((Draft.string raw).render ⟨Dialect.defaultEscape, quote⟩).result = .ok text) :
    Contains text [raw] := by
  rw [Draft.render_string] at written
  obtain rfl := Except.ok.inj written
  exact .of_string raw

theorem contains_of_scalar? {draft : Draft} (known : scalar? v = .ok draft)
    (written : (draft.render ⟨Dialect.defaultEscape, quote⟩).result = .ok text) :
    Contains text v.shown?.toList := by
  rcases scalar?_cases known with ⟨unshown, sql, bare, -, rfl⟩ | ⟨raw, shown, rfl⟩
  · rw [unshown]
    exact contains_sql bare written
  · rw [shown]
    exact contains_string written

theorem DraftsNumber.contains {memory : Nat} {kind : Token} {draft : Draft}
    (drafts : DraftsNumber memory kind v draft)
    (written : (draft.render ⟨Dialect.defaultEscape, quote⟩).result = .ok text) :
    Contains text [] := by
  cases drafts with
  | bare sql => exact contains_sql sql written
  | mismatch | fault => simp at written

theorem contains_scalar
    (written : ((scalar v).render ⟨Dialect.defaultEscape, quote⟩).result = .ok text) :
    Contains text v.shown?.toList := by
  unfold scalar at written
  split at written
  · next known => exact contains_of_scalar? known written
  · simp at written

theorem contains_element
    (written : ((element v).render ⟨Dialect.defaultEscape, quote⟩).result = .ok text) :
    Contains text v.shown?.toList := by
  unfold element at written
  split at written
  · next known => exact contains_of_scalar? known written
  · simp at written

/-- The literals of some items, with a comma and a blank before each. -/
theorem contains_separated {items : List Value} {texts : List Text}
    (each : List.Forall₂ (fun item text => Contains text item.shown?.toList) items texts) :
    Contains (texts.flatMap (Text.ofString ", " ++ ·)) (items.filterMap Value.shown?) ∧
      ∀ c ∈ (texts.flatMap (Text.ofString ", " ++ ·)).head?, ¬ c.IsQuote := by
  induction each with
  | nil => exact ⟨.of_quoteless (by decide), by simp⟩
  | @cons v text items texts first _ ih =>
    obtain ⟨others, begins⟩ := ih
    have both := first.append others fun quote kind _ head => begins quote head kind
    have comma : Contains (Text.ofString ", ") [] := .of_quoteless (by decide)
    refine ⟨?_, ?_⟩
    · have whole := comma.append both ?_
      · cases shown : v.shown? <;> simpa [shown, List.filterMap_cons] using whole
      · rintro quote kind ⟨⟩
        exact absurd kind (by decide)
    · rintro c ⟨⟩
      decide

theorem contains_list {items : List Value}
    (written : ((Draft.commaSeparated (items.map element)).render
      ⟨Dialect.defaultEscape, quote⟩).result = .ok text) :
    Contains text (items.filterMap Value.shown?) := by
  obtain ⟨texts, each, rfl⟩ := Draft.result_commaSeparated_eq_ok.mp written
  cases each.imp fun _ _ => contains_element with
  | nil => exact .of_quoteless (by decide)
  | @cons v first items texts literal literals =>
    obtain ⟨others, begins⟩ := contains_separated literals
    have both := literal.append others fun quote kind _ head => begins quote head kind
    cases shown : v.shown? <;> simpa [Text.join, shown, List.filterMap_cons] using both

/-- What the standard formatters write holds exactly the literals of the strings it shows. -/
theorem contains_formatter {token : Token} (unnamed : token ≠ .name)
    (unmapped : token = .list → ∀ kind entries, v ≠ .mapping kind entries)
    (written : ((FormatterTable.formatter token v).render
      ⟨Dialect.defaultEscape, quote⟩).result = .ok text) :
    Contains text (v.shown token) := by
  cases token with
  | integer => exact (draftsNumber_integerWithin Decimal.conversionDigits v).contains written
  | float => exact (draftsNumber_float Decimal.conversionDigits v).contains written
  | name => exact absurd rfl unnamed
  | any => exact contains_scalar written
  | list =>
    cases v with
    | list items | tuple items => exact contains_list written
    | mapping kind entries => exact absurd rfl (unmapped rfl kind entries)
    | _ => simp [FormatterTable.formatter, FormatterTable.formatterWithin, list] at written

end Format

end SqlTemplate
