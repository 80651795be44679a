import SqlTemplate.Proofs.Binding
import SqlTemplate.Proofs.Formatters

/-!
# The faults of the formatters

Under an escape function that never fails, a compilation fails with a query error, except that a
number may fail to convert: `?f` has no float for a signaling NaN, and `?d` does not form the
integer of a decimal with too many digits for the memory there is. Such an argument, and nothing
else, ends a compilation with a fault (`Template.compile_ok_or_query_error`).
-/

namespace SqlTemplate

/-- An escape function that has an escaped form for every text. -/
def Escape.Total (escape : Escape) : Prop :=
  ∀ raw, ∃ escaped, escape raw = .ok escaped

theorem Dialect.defaultEscape_total : Escape.Total defaultEscape :=
  fun raw => ⟨escapeText raw, rfl⟩

theorem Part.render_ok {d : Dialect} (total : d.escape.Total) (part : Part) :
    ∃ text, (part.render d).result = .ok text := by
  cases part with
  | sql text => exact ⟨text, rfl⟩
  | string raw | name raw =>
    obtain ⟨escaped, made⟩ := total raw
    simp [Part.render, made]

namespace Draft

/-- When no escape call fails, a draft fails as it says itself. -/
theorem result_eq_error_iff {d : Dialect} (total : d.escape.Total) (draft : Draft)
    (failure : Failure) :
    (draft.render d).result = .error failure ↔ draft.failure = some failure := by
  obtain ⟨parts, ending⟩ := draft
  induction parts with
  | nil => cases ending <;> simp [render_nil]
  | cons part parts ih =>
    obtain ⟨text, written⟩ := part.render_ok total
    have continued : ((part.render d).andThen (render d ⟨parts, ending⟩)).result =
        (render d ⟨parts, ending⟩).result.map (text ++ ·) := by
      simp [Rendering.andThen, written]
    rw [render_cons, continued, map_eq_error, ih]

end Draft

/-- What a formatter cannot refuse as a query error is what it cannot convert. -/
theorem Format.formatter_fault_iff {memory : Nat} {kind : Token} {v : Value} {cause : Fault} :
    (FormatterTable.formatterWithin memory kind v).failure = some (.fault cause) ↔
      Faulty memory kind v cause := by
  constructor
  · intro failed
    rcases formatter_failure failed with ⟨token, reason, same⟩ | ⟨cause, faulty, same⟩
    · nomatch same
    · exact Failure.fault.inj same ▸ faulty
  · intro faulty
    rw [faulty.formatter_eq]
    rfl

namespace Template

variable {table : FormatterTable} {d : Dialect} {text : Text} {args : List Value}

theorem refuses_fault_iff (known : table.Known) (total : d.escape.Total) {supplied : Nat}
    {slot : Slot} {arg : Option Value} {cause : Fault} :
    Refuses table d text supplied slot arg (.fault cause) ↔
      ∃ memory kind v, table slot.token = some (FormatterTable.formatterWithin memory kind) ∧
        arg = some v ∧ Format.Faulty memory kind v cause := by
  constructor
  · rintro (_ | _ | _ | ⟨-, found, failed⟩)
    obtain ⟨memory, kind, rfl⟩ := known _ _ found
    rw [Draft.result_eq_error_iff total] at failed
    exact ⟨memory, kind, _, found, rfl, Format.formatter_fault_iff.mp failed⟩
  · rintro ⟨memory, kind, v, found, rfl, faulty⟩
    refine .formatter ?_ found ?_
    · cases faulty <;> rfl
    · exact (Draft.result_eq_error_iff total _ _).mpr (Format.formatter_fault_iff.mpr faulty)

theorem compile_eq_error_iff {failure : Failure} :
    (compile table d text args).result = .error failure ↔
      (substitute table d text args).result = .error failure :=
  map_eq_error

theorem ok_or_query_iff {result : Except Failure Text} :
    ((∃ sql, result = .ok sql) ∨ ∃ error, result = .error (.query error)) ↔
      ∀ cause, result ≠ .error (.fault cause) := by
  rcases result with (error | cause) | sql <;> simp

variable (table d text args) in
/-- Some placeholder has to write an argument that its formatter cannot convert, after all earlier
ones have written theirs. -/
def MeetsFault (cause : Fault) : Prop :=
  ∃ (i : Nat) (slot : Slot) (memory : Nat) (kind : Token) (v : Value),
    (parse text).slots[i]? = some slot ∧
    table slot.token = some (FormatterTable.formatterWithin memory kind) ∧
    args[i]? = some v ∧ Format.Faulty memory kind v cause ∧
    ∀ j < i, ∀ other, (parse text).slots[j]? = some other →
      ∃ v r, args[j]? = some v ∧ Writes table d text other v r

theorem compile_fault_iff (known : table.Known) (total : d.escape.Total) (cause : Fault) :
    (compile table d text args).result = .error (.fault cause) ↔
      MeetsFault table d text args cause := by
  simp only [compile_eq_error_iff, substitute_eq_error, refuses_fault_iff known total]
  constructor
  · rintro ⟨i, slot, at_i, ⟨memory, kind, v, found, bound, faulty⟩, earlier⟩
    exact ⟨i, slot, memory, kind, v, at_i, found, bound, faulty, earlier⟩
  · rintro ⟨i, slot, memory, kind, v, at_i, found, bound, faulty, earlier⟩
    exact ⟨i, slot, at_i, ⟨memory, kind, v, found, bound, faulty⟩, earlier⟩

/-- **A compilation gives a query or fails with a query error, unless a number cannot be
converted.** The only such numbers are a signaling NaN for `?f` and a decimal with too many digits
for `?d`, and the compilation then ends in the fault of the conversion. This holds for every table
of known formatters, whatever memory they have, and every escape function that never fails. -/
theorem compile_ok_or_query_error (known : table.Known) (total : d.escape.Total) :
    (((∃ sql, (compile table d text args).result = .ok sql) ∨
        ∃ error, (compile table d text args).result = .error (.query error)) ↔
      ∀ cause, ¬ MeetsFault table d text args cause) ∧
    ∀ cause, (compile table d text args).result = .error (.fault cause) ↔
      MeetsFault table d text args cause := by
  refine ⟨?_, compile_fault_iff known total⟩
  simp only [ok_or_query_iff, ne_eq, compile_fault_iff known total]

/-- A signaling NaN behind a placeholder that has no formatter is never reached. -/
theorem compile_ok_or_query_error_unknown :
    let table := FormatterTable.standard.without .integer
    let args : List Value := [.int 7, .decimal (.nan false true 0)]
    table.Known ∧ Dialect.default.escape.Total ∧
      ((∃ sql, (compile table .default "?d ?f" args).result = .ok sql) ∨
        ∃ error, (compile table .default "?d ?f" args).result = .error (.query error)) ∧
      ∀ cause, ¬ MeetsFault table .default "?d ?f" args cause :=
  have known := FormatterTable.known_standard.without .integer
  have total := Dialect.defaultEscape_total
  have answered := Or.inr ⟨.unknownPlaceholder .integer, rfl⟩
  ⟨known, total, answered, (compile_ok_or_query_error known total).1.mp answered⟩

/-- A signaling NaN ends a compilation with a fault, which is no query error. -/
theorem compile_signalingNaN :
    let compiled := (compile .standard .default "?f" [.decimal (.nan false true 0)]).result
    compiled = .error (.fault .signalingNaN) ∧
      ¬ ((∃ sql, compiled = .ok sql) ∨ ∃ error, compiled = .error (.query error)) := by
  have failed : (compile .standard .default "?f" [.decimal (.nan false true 0)]).result =
      .error (.fault .signalingNaN) := rfl
  simp [failed]

/-- So does a decimal whose integer part is too long for any memory. -/
example :
    (compile .standard .default "?d" [.decimal (.finite false 1 999999999999999999)]).result =
      .error (.fault .outOfMemory) := by
  rfl

end Template

end SqlTemplate
