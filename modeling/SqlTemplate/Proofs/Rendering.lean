import SqlTemplate.Draft

/-!
# Drafts are written from left to right

The parts of a draft are written one after the other, each with its escape call, and the first one
that fails ends everything (`Draft.render_append`).
-/

namespace SqlTemplate

theorem bind_eq_ok {ε α β : Type} {x : Except ε α} {f : α → Except ε β} {b : β} :
    x >>= f = .ok b ↔ ∃ a, x = .ok a ∧ f a = .ok b := by
  cases x <;> simp [bind, Except.bind]

theorem map_eq_ok {ε α β : Type} {x : Except ε α} {f : α → β} {b : β} :
    x.map f = .ok b ↔ ∃ a, x = .ok a ∧ f a = b := by
  cases x <;> simp [Except.map]

theorem map_eq_error {ε α β : Type} {x : Except ε α} {f : α → β} {e : ε} :
    x.map f = .error e ↔ x = .error e := by
  cases x <;> simp [Except.map]

namespace Rendering

/-- One rendering after another. The second happens only if the first gives a text. -/
def andThen (a b : Rendering) : Rendering :=
  match a.result with
  | .ok text => ⟨a.calls ++ b.calls, b.result.map (text ++ ·)⟩
  | .error _ => a

theorem andThen_assoc (a b c : Rendering) :
    (a.andThen b).andThen c = a.andThen (b.andThen c) := by
  obtain ⟨calls, result⟩ := a
  obtain ⟨calls', result'⟩ := b
  obtain ⟨calls'', result''⟩ := c
  cases result with
  | error failure => rfl
  | ok text =>
    cases result' with
    | error failure => simp [andThen, Except.map]
    | ok text' => cases result'' <;> simp [andThen, Except.map]

/-- The text of two renderings in a row. -/
theorem result_andThen_eq_ok {a b : Rendering} {text : Text} :
    (a.andThen b).result = .ok text ↔
      ∃ first second, a.result = .ok first ∧ b.result = .ok second ∧ text = first ++ second := by
  obtain ⟨calls, result⟩ := a
  obtain ⟨calls', result'⟩ := b
  cases result <;> cases result' <;> simp [andThen, Except.map, eq_comm]

end Rendering

/-- What writing out one part does. -/
def Part.render (d : Dialect) : Part → Rendering
  | .sql text => ⟨[], .ok text⟩
  | .string raw =>
    ⟨[raw], match d.escape raw with
      | .ok escaped => .ok escaped.quoted
      | .error cause => .error (.fault cause)⟩
  | .name raw =>
    ⟨[raw], match d.escape raw with
      | .ok escaped => .ok (d.enclose escaped)
      | .error cause => .error (.fault cause)⟩

namespace Draft

theorem renderOnto_eq (d : Dialect) (failure : Option Failure) (parts : List Part) :
    ∀ calls written : List Text, renderOnto d failure calls written parts =
      Rendering.andThen ⟨calls.reverse, .ok written.reverse.flatten⟩
        (render d ⟨parts, failure⟩) := by
  induction parts with
  | nil =>
    intro calls written
    cases failure <;> simp [render, renderOnto, Rendering.andThen, Except.map]
  | cons part parts ih =>
    intro calls written
    cases part with
    | sql text =>
      simp only [render, renderOnto]
      rw [ih calls, ih [], ← Rendering.andThen_assoc]
      simp [Rendering.andThen, Except.map]
    | string raw | name raw =>
      simp only [render, renderOnto]
      cases d.escape raw with
      | error cause => simp [Rendering.andThen, Except.map]
      | ok escaped =>
        simp only
        rw [ih (raw :: calls), ih [raw], ← Rendering.andThen_assoc]
        simp [Rendering.andThen, Except.map]

theorem render_nil (d : Dialect) (failure : Option Failure) :
    render d ⟨[], failure⟩ = ⟨[], match failure with
      | none => .ok []
      | some failure => .error failure⟩ := by
  cases failure <;> rfl

theorem render_cons (d : Dialect) (part : Part) (parts : List Part) (failure : Option Failure) :
    render d ⟨part :: parts, failure⟩ = (part.render d).andThen (render d ⟨parts, failure⟩) := by
  cases part with
  | sql text =>
    simp only [render, renderOnto, Part.render]
    rw [renderOnto_eq]
    simp [render]
  | string raw | name raw =>
    simp only [render, renderOnto, Part.render]
    cases d.escape raw with
    | error cause => rfl
    | ok escaped =>
      simp only
      rw [renderOnto_eq]
      simp [render]

/-- A draft behind another is written after it, unless the first one fails. -/
theorem render_append (d : Dialect) (a b : Draft) :
    (a ++ b).render d = (a.render d).andThen (b.render d) := by
  obtain ⟨parts, failure⟩ := a
  induction parts with
  | nil =>
    cases failure with
    | none =>
      have empty : (⟨[], none⟩ : Draft) ++ b = b := empty_append b
      rw [empty, render_nil]
      obtain ⟨calls, result⟩ := b.render d
      cases result <;> simp [Rendering.andThen, Except.map]
    | some failure => rfl
  | cons part parts ih =>
    have split : (⟨part :: parts, failure⟩ : Draft) ++ b =
        ⟨part :: ((⟨parts, failure⟩ : Draft) ++ b).parts,
          ((⟨parts, failure⟩ : Draft) ++ b).failure⟩ := by
      cases failure <;> rfl
    rw [split, render_cons, render_cons, Rendering.andThen_assoc, ← ih]

/-- A draft fails as it says itself, or an escape call does. -/
theorem failure_of_render {d : Dialect} {draft : Draft} {failure : Failure}
    (failed : (draft.render d).result = .error failure) :
    draft.failure = some failure ∨ ∃ cause, failure = .fault cause := by
  obtain ⟨parts, ending⟩ := draft
  induction parts with
  | nil =>
    rw [render_nil] at failed
    cases ending with
    | none => nomatch failed
    | some ending => exact .inl (congrArg some (Except.error.inj failed))
  | cons part parts ih =>
    rw [render_cons] at failed
    cases written : (part.render d).result with
    | ok text =>
      simp only [Rendering.andThen, written, map_eq_error] at failed
      exact ih failed
    | error cause =>
      simp only [Rendering.andThen, written, Except.error.injEq] at failed
      subst failed
      cases part with
      | sql text => nomatch written
      | string raw | name raw =>
        simp only [Part.render] at written
        split at written
        · nomatch written
        · exact .inr ⟨_, (Except.error.inj written).symm⟩

@[simp] theorem render_sql (d : Dialect) (text : Text) : (sql text).render d = ⟨[], .ok text⟩ := by
  simp [sql, render, renderOnto]

@[simp] theorem render_string (d : Dialect) (raw : Text) :
    (string raw).render d = (Part.string raw).render d := by
  rw [string, render_cons, render_nil]
  cases escaped : d.escape raw <;> simp [Part.render, escaped, Rendering.andThen, Except.map]

@[simp] theorem render_name (d : Dialect) (raw : Text) :
    (name raw).render d = (Part.name raw).render d := by
  rw [name, render_cons, render_nil]
  cases escaped : d.escape raw <;> simp [Part.render, escaped, Rendering.andThen, Except.map]

@[simp] theorem render_fail (d : Dialect) (failure : Failure) :
    (fail failure).render d = ⟨[], .error failure⟩ := rfl

@[simp] theorem render_mismatch (d : Dialect) (token : Token) (reason : Mismatch) :
    (mismatch token reason).render d = ⟨[], .error (.query (.typeMismatch token reason))⟩ := rfl

@[simp] theorem render_empty (d : Dialect) : empty.render d = ⟨[], .ok []⟩ := rfl

/-- Text in front of a draft is text in front of its rendering. -/
theorem result_sql_append (d : Dialect) (text : Text) (b : Draft) :
    ((sql text ++ b).render d).result = ((b.render d).result).map (text ++ ·) := by
  simp [render_append, render_sql, Rendering.andThen]

end Draft

end SqlTemplate
