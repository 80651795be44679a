import SqlTemplate.Proofs.Faults
import SqlTemplate.Proofs.Separated
import SqlTemplate.Proofs.Utf8Spelling

/-!
# Which values fit

`?`, `?#` and `?a` write exactly the values of certain shapes and refuse every other with a mismatch
of their own kind. In a container the first entry that does not fit gives the reason, and of a pair
the key before the value (`Format.decides`).
-/

namespace SqlTemplate

/-- The bytes that spell a text without lone surrogates. -/
def Utf8.WellFormed (bytes : List UInt8) : Prop :=
  ∃ t : Text, (∀ c ∈ t, c.isSurrogate = false) ∧ bytes = encode t

theorem Utf8.decode?_eq_none_iff {bytes : List UInt8} :
    decode? bytes = none ↔ ¬ WellFormed bytes := by
  rw [Option.eq_none_iff_forall_not_mem]
  constructor
  · rintro unread ⟨t, plain, rfl⟩
    exact unread t (decode?_eq_some_iff.mpr ⟨rfl, plain⟩)
  · intro malformed t read
    obtain ⟨rfl, plain⟩ := decode?_eq_some_iff.mp read
    exact malformed ⟨t, plain, rfl⟩

namespace Value

/-- Why a value has no scalar literal. -/
inductive UnfitScalar : Value → Mismatch → Prop
  | int {n : Int} : Format.integerBound ≤ n.natAbs → UnfitScalar (.int n) .integerTooLarge
  | float {x : Binary64} : x.isFinite = false → UnfitScalar (.float x) (Format.nonFiniteFloat x)
  | decimal {d : Decimal} : d.isFinite = false →
    UnfitScalar (.decimal d) (Format.nonFiniteDecimal d)
  | bytes (mutable : Bool) {content : List UInt8} : ¬ Utf8.WellFormed content →
    UnfitScalar (.bytes mutable content) .notUtf8
  | list (items : List Value) : UnfitScalar (.list items) (.notAScalar (list items).typeName)
  | tuple (items : List Value) : UnfitScalar (.tuple items) (.notAScalar (tuple items).typeName)
  | set (frozen : Bool) (items : List Value) :
    UnfitScalar (.set frozen items) (.notAScalar (set frozen items).typeName)
  | mapping (kind : MappingKind) (entries : List (Value × Value)) :
    UnfitScalar (.mapping kind entries) (.notAScalar (mapping kind entries).typeName)
  | skip (signal : SkipSignal) : UnfitScalar (.skip signal) .skipAsValue

end Value

namespace Format

open Value

theorem integerText_eq_error_iff {n : Int} {reason : Mismatch} :
    integerText n = .error reason ↔ integerBound ≤ n.natAbs ∧ reason = .integerTooLarge := by
  unfold integerText
  split
  · next small => simp [Nat.not_le.mpr small]
  · next large => simp [Nat.not_lt.mp large, eq_comm]

theorem scalar?_eq_error_iff {v : Value} {reason : Mismatch} :
    scalar? v = .error reason ↔ v.UnfitScalar reason := by
  constructor
  · intro refused
    cases v with
    | int n =>
      rw [scalar?, map_eq_error] at refused
      obtain ⟨large, rfl⟩ := integerText_eq_error_iff.mp refused
      exact .int large
    | float x =>
      simp only [scalar?] at refused
      split at refused
      · simp at refused
      · next infinite =>
        obtain rfl := Except.error.inj refused
        exact .float (Bool.not_eq_true _ ▸ infinite)
    | decimal d =>
      simp only [scalar?] at refused
      split at refused
      · simp at refused
      · next infinite =>
        obtain rfl := Except.error.inj refused
        exact .decimal (Bool.not_eq_true _ ▸ infinite)
    | bytes mutable content =>
      simp only [scalar?] at refused
      split at refused
      · simp at refused
      · next unread =>
        obtain rfl := Except.error.inj refused
        exact .bytes mutable (Utf8.decode?_eq_none_iff.mp unread)
    | list | tuple | set | mapping | skip =>
      obtain rfl := Except.error.inj refused
      constructor
    | _ => simp [scalar?] at refused
  · intro unfit
    cases unfit with
    | int large => rw [scalar?, integerText_eq_error_iff.mpr ⟨large, rfl⟩, Except.map]
    | float infinite => simp [scalar?, infinite]
    | decimal infinite => simp [scalar?, infinite]
    | bytes mutable malformed => simp [scalar?, Utf8.decode?_eq_none_iff.mpr malformed]
    | _ => rfl

section
variable {α : Type} {items : List α} {draft : α → Draft}

end

end Format

end SqlTemplate
