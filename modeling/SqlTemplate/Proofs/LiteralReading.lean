import SqlTemplate.Proofs.Containment
import SqlTemplate.Proofs.Utf8Spelling

/-!
# Reading string literals back

A reader of SQL takes a backslash and the code point behind it for one code point and a doubled
quote for one quote, and the literal to end at the first quote that stands alone. It reads every
literal that `?` writes for a string as that string (`StringLiteral.read?_scalar`): each escaped
form is read as the code point that it stands for, whatever follows
(`StringLiteral.readBody?_escapeCodePoint`).
-/

namespace SqlTemplate

/-- The values that are a string: a text, and bytes that spell it in UTF-8. -/
inductive Value.Spells : Value → Text → Prop
  | text (t : Text) : Spells (.text t) t
  | bytes (mutable : Bool) {t : Text} : (∀ c ∈ t, c.isSurrogate = false) →
    Spells (.bytes mutable (Utf8.encode t)) t

namespace StringLiteral

/-- What a backslash and a code point stand for. Before a wildcard the backslash stays. -/
def unescaped (c : CodePoint) : Text :=
  if c = '0' then [⟨0, by decide⟩]
  else if c = 'b' then [CodePoint.ofChar '\x08']
  else if c = 'n' then [CodePoint.ofChar '\n']
  else if c = 'r' then [CodePoint.ofChar '\r']
  else if c = 't' then [CodePoint.ofChar '\t']
  else if c = 'Z' then [CodePoint.ofChar '\x1a']
  else if c = '%' ∨ c = '_' then [CodePoint.ofChar '\\', c]
  else [c]

/-- The string whose literal has been opened in front of a text, and what follows the literal. -/
def readBody? : Text → Option (Text × Text)
  | [] => none
  | c :: rest =>
    if c = '\x27' then
      match rest with
      | [] => some ([], [])
      | d :: rest =>
        if d = '\x27' then (readBody? rest).map fun (value, rest) => (c :: value, rest)
        else some ([], d :: rest)
    else if c = '\\' then
      match rest with
      | [] => none
      | d :: rest => (readBody? rest).map fun (value, rest) => (unescaped d ++ value, rest)
    else (readBody? rest).map fun (value, rest) => (c :: value, rest)

/-- The string whose literal a text begins with, and what follows it. -/
def read? : Text → Option (Text × Text)
  | [] => none
  | c :: rest => if c = '\x27' then readBody? rest else none

theorem readBody?_escape (c : CodePoint) (rest : Text) :
    readBody? (CodePoint.ofChar '\\' :: c :: rest) =
      (readBody? rest).map fun (value, rest) => (unescaped c ++ value, rest) := by
  rw [readBody?.eq_def]
  have other : CodePoint.ofChar '\\' ≠ CodePoint.ofChar '\x27' := by decide
  simp [other]

theorem readBody?_plain {c : CodePoint} (unquoted : c ≠ '\x27') (unescaped : c ≠ '\\')
    (rest : Text) :
    readBody? (c :: rest) = (readBody? rest).map fun (value, rest) => (c :: value, rest) := by
  rw [readBody?.eq_def]
  simp [unquoted, unescaped]

/-- Every escaped form is read as the code point that it stands for. -/
theorem readBody?_escapeCodePoint (c : CodePoint) (rest : Text) :
    readBody? (Dialect.escapeCodePoint c ++ rest) =
      (readBody? rest).map fun (value, rest) => (c :: value, rest) := by
  by_cases nul : c.val = 0
  · obtain rfl : c = ⟨0, by decide⟩ := by cases c; simpa using nul
    exact readBody?_escape _ _
  by_cases newline : c = '\n'
  · subst newline
    exact readBody?_escape _ _
  by_cases carriage : c = '\r'
  · subst carriage
    exact readBody?_escape _ _
  by_cases substitute : c.val = 0x1A
  · obtain rfl : c = CodePoint.ofChar '\x1a' := by
      cases c
      simpa [CodePoint.ofChar] using substitute
    exact readBody?_escape _ _
  by_cases double : c = '\x22'
  · subst double
    exact readBody?_escape _ _
  by_cases single : c = '\x27'
  · subst single
    exact readBody?_escape _ _
  by_cases backslash : c = '\\'
  · subst backslash
    exact readBody?_escape _ _
  · have unchanged : Dialect.escapeCodePoint c = [c] := by
      simp [Dialect.escapeCodePoint, nul, newline, carriage, substitute, double, single, backslash]
    rw [unchanged]
    exact readBody?_plain single backslash rest

/-- A quote ends the literal unless another one follows. -/
theorem readBody?_quote {rest : Text} (ends : rest.head? ≠ some (CodePoint.ofChar '\x27')) :
    readBody? (CodePoint.ofChar '\x27' :: rest) = some ([], rest) := by
  cases rest with
  | nil => rfl
  | cons d rest =>
    have other : d ≠ '\x27' := by simpa using ends
    rw [readBody?.eq_def]
    simp [other]

theorem readBody?_escapeText (t : Text) {rest : Text}
    (ends : rest.head? ≠ some (CodePoint.ofChar '\x27')) :
    readBody? (Dialect.escapeText t ++ CodePoint.ofChar '\x27' :: rest) = some (t, rest) := by
  induction t with
  | nil => exact readBody?_quote ends
  | cons c t ih =>
    have cons : Dialect.escapeText (c :: t) =
        Dialect.escapeCodePoint c ++ Dialect.escapeText t := rfl
    rw [cons, List.append_assoc, readBody?_escapeCodePoint, ih]
    rfl

theorem read?_quoted (t : Text) {rest : Text}
    (ends : rest.head? ≠ some (CodePoint.ofChar '\x27')) :
    read? ((Dialect.escapeText t).quoted ++ rest) = some (t, rest) := by
  have whole : (Dialect.escapeText t).quoted ++ rest =
      CodePoint.ofChar '\x27' :: (Dialect.escapeText t ++ CodePoint.ofChar '\x27' :: rest) := by
    simp [Text.quoted]
  rw [whole, read?, if_pos rfl, readBody?_escapeText t ends]

/-- The search for quoted literals finds the same end. -/
theorem length?_quoted (t : Text) {rest : Text}
    (ends : rest.head? ≠ some (CodePoint.ofChar '\x27')) :
    QuotedLiteral.length? ((Dialect.escapeText t).quoted ++ rest) =
      some (Dialect.escapeText t).quoted.length := by
  have whole : (Dialect.escapeText t).quoted ++ rest =
      CodePoint.ofChar '\x27' :: (Dialect.escapeText t ++ CodePoint.ofChar '\x27' :: rest) := by
    simp [Text.quoted]
  have kind : (CodePoint.ofChar '\x27').IsQuote := .inl rfl
  rw [whole, QuotedLiteral.length?_quote kind, (quotable_escapeText t).lengthFrom_eq kind ends]
  simp [Text.quoted]
  omega

theorem scalar_of_spells {value : Value} {t : Text} (spells : value.Spells t) :
    Format.scalar value = .string t := by
  cases spells with
  | text => rfl
  | bytes mutable plain =>
    have decoded : Utf8.decode? (Utf8.encode t) = some t :=
      Utf8.decode?_eq_some_iff.mpr ⟨rfl, plain⟩
    simp only [Format.scalar, Format.scalar?, decoded]

/-- A string is written as one literal, whether it comes as text or as bytes. -/
theorem render_scalar_of_spells (quote : CodePoint) {value : Value} {t : Text}
    (spells : value.Spells t) :
    ((Format.scalar value).render ⟨Dialect.defaultEscape, quote⟩).result =
      .ok (Dialect.escapeText t).quoted := by
  rw [scalar_of_spells spells, Draft.render_string]
  rfl

/-- Bytes that spell no string are refused. -/
theorem spells_or_refused (quote : CodePoint) (mutable : Bool) (content : List UInt8) :
    (∃ t, (Value.bytes mutable content).Spells t) ∨
      ((Format.scalar (.bytes mutable content)).render ⟨Dialect.defaultEscape, quote⟩).result =
        .error (.query (.typeMismatch .any .notUtf8)) := by
  cases decoded : Utf8.decode? content with
  | none =>
    refine .inr ?_
    simp only [Format.scalar, Format.scalar?, decoded]
    rfl
  | some t =>
    obtain ⟨rfl, plain⟩ := Utf8.decode?_eq_some_iff.mp decoded
    exact .inl ⟨t, .bytes mutable plain⟩

/-- **String literals are read back.** Under the default escape `?` writes a string, given as text
or as UTF-8, as a literal that is read as this string wherever no further quote follows, and that
the search for quoted literals takes to end at the same place; all other bytes are refused. So no
two strings have one literal. -/
theorem read?_scalar (quote : CodePoint) :
    let written (value : Value) : Except Failure Text :=
      ((Format.scalar value).render ⟨Dialect.defaultEscape, quote⟩).result
    (∀ value t, value.Spells t → ∃ literal, written value = .ok literal ∧
      ∀ rest : Text, rest.head? ≠ some (CodePoint.ofChar '\x27') →
        read? (literal ++ rest) = some (t, rest) ∧
          QuotedLiteral.length? (literal ++ rest) = some literal.length) ∧
    (∀ mutable content, (∃ t, (Value.bytes mutable content).Spells t) ∨
      written (.bytes mutable content) = .error (.query (.typeMismatch .any .notUtf8))) ∧
    ∀ value other t u literal, value.Spells t → other.Spells u → written value = .ok literal →
      written other = .ok literal → t = u := by
  intro written
  refine ⟨?_, spells_or_refused quote, ?_⟩
  · intro value t spells
    refine ⟨(Dialect.escapeText t).quoted, render_scalar_of_spells quote spells, ?_⟩
    intro rest ends
    exact ⟨read?_quoted t ends, length?_quoted t ends⟩
  · intro value other t u literal spells spells' first second
    have one := Except.ok.inj ((render_scalar_of_spells quote spells).symm.trans first)
    have two := Except.ok.inj ((render_scalar_of_spells quote spells').symm.trans second)
    have read : read? (literal ++ []) = some (t, []) := one ▸ read?_quoted t (by simp)
    have read' : read? (literal ++ []) = some (u, []) := two ▸ read?_quoted u (by simp)
    rw [read] at read'
    simpa using read'

/-- A quote and a final backslash stay in the string, and the quote behind it ends the literal. -/
theorem read?_scalar_backslash :
    let literal : Text := "\x27it\\\x27s \\\\\x27"
    (Value.text "it\x27s \\").Spells "it\x27s \\" ∧
      ((Format.scalar (.text "it\x27s \\")).render .default).result = .ok literal ∧
      read? (literal ++ Text.ofString " AND 1") =
        some (Text.ofString "it\x27s \\", Text.ofString " AND 1") := by
  intro literal
  obtain ⟨found, written, reads⟩ :=
    (read?_scalar Dialect.backquote).1 (.text "it\x27s \\") _ (.text _)
  obtain rfl : literal = found := Except.ok.inj written
  exact ⟨.text _, written, (reads " AND 1" (by decide)).1⟩

end StringLiteral

end SqlTemplate
