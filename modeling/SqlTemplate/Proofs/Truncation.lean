import SqlTemplate.Proofs.Formatters
import SqlTemplate.Proofs.NumeralValue
import SqlTemplate.Proofs.Rendering

/-!
# Numbers are written exactly

`?d` writes the integer part of a number, toward zero, and `?` an integer or a decimal itself. What
is written denotes exactly the number it stands for, and an integer is refused just if it has more
digits than the limit (`Format.written_exactly`). A decimal with an integer part that is too long to
be formed is not refused: the conversion ends in a fault.
-/

namespace SqlTemplate

/-- The integer part of a number, toward zero. -/
def towardZero (x : Rat) : Int :=
  if x < 0 then ⌈x⌉ else ⌊x⌋

theorem towardZero_of_nonneg {x : Rat} (positive : 0 ≤ x) : towardZero x = ⌊x⌋ :=
  if_neg (not_lt.mpr positive)

theorem towardZero_neg (x : Rat) : towardZero (-x) = -towardZero x := by
  rcases lt_trichotomy x 0 with negative | rfl | positive
  · simp [towardZero, negative, negative.le, Int.floor_neg]
  · rfl
  · simp [towardZero, positive, positive.le, Int.ceil_neg]

theorem towardZero_withSign (negative : Bool) (x : Rat) :
    towardZero (withSign negative x) = if negative then -towardZero x else towardZero x := by
  cases negative with
  | false => rfl
  | true => exact towardZero_neg x

theorem towardZero_intCast (n : Int) : towardZero n = n := by
  simp [towardZero]

/-- A property of the size of a number need only be shown of those that are not negative. -/
theorem of_nonneg {p : Rat → Prop} (positive : ∀ x, 0 ≤ x → p x) (flip : ∀ x, p x → p (-x))
    (x : Rat) : p x := by
  rcases le_total 0 x with above | below
  · exact positive x above
  · have := flip (-x) (positive (-x) (neg_nonneg.mpr below))
    rwa [neg_neg] at this

theorem natAbs_towardZero_lt_iff {x : Rat} {k : Nat} : (towardZero x).natAbs < k ↔ |x| < k := by
  refine of_nonneg (p := fun x => (towardZero x).natAbs < k ↔ |x| < k) ?_ ?_ x
  · intro x positive
    have floor : 0 ≤ ⌊x⌋ := Int.floor_nonneg.mpr positive
    have below : ⌊x⌋ < k ↔ x < k := Int.floor_lt
    rw [towardZero_of_nonneg positive, abs_of_nonneg positive, ← below]
    omega
  · intro x same
    rwa [towardZero_neg, Int.natAbs_neg, abs_neg]

/-- Division that drops the remainder cuts off toward zero. -/
theorem tdiv_eq_towardZero (x : Rat) : Int.tdiv x.num x.den = towardZero x := by
  refine of_nonneg (p := fun x => Int.tdiv x.num x.den = towardZero x) ?_ ?_ x
  · intro x positive
    rw [towardZero_of_nonneg positive, Int.tdiv_eq_ediv_of_nonneg (Rat.num_nonneg.mpr positive)]
    exact (Rat.floor_def x).symm
  · intro x same
    rw [towardZero_neg, ← same, Rat.neg_num, Rat.neg_den, Int.neg_tdiv]

/-! ## Integer parts of decimals -/

theorem floor_shifted_left {coefficient : Nat} {exponent : Int} (left : 0 ≤ exponent) :
    ⌊(coefficient * 10 ^ exponent : Rat)⌋ = (coefficient * Nat.pow 10 exponent.toNat : Nat) := by
  obtain ⟨k, rfl⟩ := Int.eq_ofNat_of_zero_le left
  rw [zpow_natCast, Int.toNat_natCast, Nat.pow_eq]
  exact_mod_cast Int.floor_natCast (R := Rat) (coefficient * 10 ^ k)

theorem floor_shifted_right {coefficient : Nat} {exponent : Int} (right : exponent < 0) :
    ⌊(coefficient * 10 ^ exponent : Rat)⌋ = (coefficient / Nat.pow 10 (-exponent).toNat : Nat) := by
  obtain ⟨k, rfl⟩ := Int.eq_negSucc_of_lt_zero right
  rw [zpow_negSucc, ← div_eq_mul_inv, Int.neg_negSucc, Int.toNat_natCast, Nat.pow_eq]
  exact_mod_cast Rat.floor_natCast_div_natCast coefficient (10 ^ (k + 1))

theorem Decimal.integerPlaces_le_iff {coefficient : Nat} {exponent : Int} {k : Nat} :
    integerPlaces coefficient exponent ≤ k ↔ (coefficient * 10 ^ exponent : Rat) < 10 ^ k := by
  unfold integerPlaces
  split
  · next zero => simp [zero]
  · next nonzero =>
    have below := lt_decade coefficient exponent
    have reached := decade_le (Nat.pos_of_ne_zero nonzero) exponent
    rw [Int.toNat_le, ← zpow_natCast]
    constructor
    · intro few
      exact below.trans_le (zpow_le_zpow_right₀ (by decide) few)
    · intro less
      by_contra many
      have power : (10 : Rat) ^ (k : Int) ≤ coefficient * 10 ^ exponent :=
        (zpow_le_zpow_right₀ (by decide) (by omega)).trans reached
      exact absurd less (not_lt.mpr power)

/-- The integer part of a decimal is found without forming a power of ten beyond the limit. -/
theorem Decimal.truncate?_eq (limit : Nat) (negative : Bool) (coefficient : Nat)
    (exponent : Int) :
    let whole := towardZero (withSign negative (coefficient * 10 ^ exponent))
    truncate? limit negative coefficient exponent =
      if whole.natAbs < 10 ^ limit then some whole else none := by
  intro whole
  have positive : (0 : Rat) ≤ coefficient * 10 ^ exponent := by positivity
  have whole_eq : whole = if negative then -⌊(coefficient * 10 ^ exponent : Rat)⌋
      else ⌊(coefficient * 10 ^ exponent : Rat)⌋ := by
    rw [← towardZero_of_nonneg positive, ← towardZero_withSign]
  have places (k : Nat) : whole.natAbs < 10 ^ k ↔ integerPlaces coefficient exponent ≤ k := by
    rw [natAbs_towardZero_lt_iff, abs_withSign positive, integerPlaces_le_iff, Nat.cast_pow,
      Nat.cast_ofNat]
  by_cases fraction : integerPlaces coefficient exponent = 0
  · have none : whole = 0 := by
      have small := (places 0).mpr (Nat.le_of_eq fraction)
      omega
    simp [truncate?, fraction, none]
  by_cases large : limit < integerPlaces coefficient exponent
  · have long : ¬ whole.natAbs < 10 ^ limit := mt (places limit).mp (Nat.not_le.mpr large)
    simp only [truncate?, fraction, large, long, ↓reduceIte]
  · rw [if_pos ((places limit).mpr (Nat.not_lt.mp large)), whole_eq]
    by_cases left : 0 ≤ exponent
    · simp only [truncate?, fraction, large, left, ↓reduceIte, floor_shifted_left left]
    · simp only [truncate?, fraction, large, left, ↓reduceIte,
        floor_shifted_right (not_le.mp left)]

/-- A decimal has more than `k` digits before its point just if it is that large. -/
theorem Decimal.lt_integerPlaces_iff {negative : Bool} {coefficient : Nat} {exponent : Int}
    {x : Rat} (worth : (finite negative coefficient exponent).value? = some x) {k : Nat} :
    k < integerPlaces coefficient exponent ↔ 10 ^ k ≤ |x| := by
  rw [value?_finite, Option.some.injEq] at worth
  rw [← worth, abs_withSign (by positivity), ← Nat.not_le, integerPlaces_le_iff, not_lt]

namespace Format

/-! ## What is written for a number -/

/-- The exact value of a number, unless it is infinite or none. -/
def Quantity.value? : Quantity → Option Rat
  | .integer n => some n
  | .float x => x.value?
  | .decimal d => d.value?

theorem integerText_eq (n : Int) :
    integerText n =
      if n.natAbs < 10 ^ integerDigits then .ok (Text.ofInt n) else .error .integerTooLarge := by
  rw [integerText, integerBound_eq, Nat.pow_eq]

variable {memory : Nat}

/-- The integer part of a number depends on its value alone, as far as it can be formed, and is
refused only if it has too many digits. -/
theorem truncated_cases {quantity : Quantity} {x : Rat} (worth : quantity.value? = some x)
    (formable : ∀ d, quantity = .decimal d → |x| < 10 ^ Decimal.formableDigits memory) :
    truncated memory quantity = .ok (towardZero x) ∨
      10 ^ integerDigits ≤ (towardZero x).natAbs ∧
        truncated memory quantity = .error (.query (.typeMismatch .integer .integerTooLarge)) := by
  cases quantity with
  | integer n =>
    obtain rfl := Option.some.inj worth
    exact .inl (by rw [truncated, towardZero_intCast])
  | float f =>
    have known : f.value? = some x := worth
    exact .inl (by simp only [truncated, known, tdiv_eq_towardZero])
  | decimal d =>
    cases d with
    | finite negative coefficient exponent =>
      have formed := mt (Decimal.lt_integerPlaces_iff worth).mp (not_le.mpr (formable _ rfl))
      obtain rfl := Option.some.inj worth
      rw [truncated, if_neg formed, Decimal.truncate?_eq]
      by_cases small :
        (towardZero (withSign negative (coefficient * 10 ^ exponent))).natAbs < 10 ^ integerDigits
      · rw [if_pos small]
        exact .inl rfl
      · rw [if_neg small]
        exact .inr ⟨Nat.not_lt.mp small, rfl⟩
    | infinity | nan => cases worth

/-- What becomes of an integer: its numeral, up to the limit of digits, and a mismatch beyond. -/
inductive WritesInteger (token : Token) (n : Int) : Except Failure Text → Prop
  | numeral {t : Text} : n.natAbs < 10 ^ integerDigits → t.Canonical n →
    WritesInteger token n (.ok t)
  | tooLarge (reason : Mismatch) : 10 ^ integerDigits ≤ n.natAbs →
    WritesInteger token n (.error (.query (.typeMismatch token reason)))

theorem writesInteger (d : Dialect) (token : Token) (n : Int) :
    WritesInteger token n ((ofTextOrMismatch token (integerText n)).render d).result := by
  rw [integerText_eq]
  split
  · next small =>
    rw [ofTextOrMismatch, Draft.render_sql]
    exact .numeral small (Text.canonical_ofInt n)
  · next large => exact .tooLarge .integerTooLarge (Nat.not_lt.mp large)

theorem quantity?_text {t : Text} {n : Numeral} (leads : Numeral.leading? t = some n) :
    quantity? (.text t) = .ok (.ofReading (.ofNumeral n)) := by
  rw [quantity?, Reading.ofText, leads, Option.elim_some]

/-- `?d` writes the integer part of every finite quantity that it can form. -/
theorem writes_integer (memory : Nat) {v : Value} (filled : v ≠ .null) {quantity : Quantity}
    (read : quantity? v = .ok quantity) {x : Rat} (worth : quantity.value? = some x)
    (formable : ∀ d, quantity = .decimal d → |x| < 10 ^ Decimal.formableDigits memory)
    (d : Dialect) :
    WritesInteger .integer (towardZero x) ((integerWithin memory v).render d).result := by
  rw [integerWithin]
  rcases truncated_cases worth formable with found | ⟨long, refused⟩
  · rw [number_of_converted filled read found]
    exact writesInteger d .integer (towardZero x)
  · rw [number_of_failed filled read refused]
    exact .tooLarge .integerTooLarge long

/-- A decimal whose integer part cannot be formed ends in a fault. -/
theorem integer_outOfMemory {d : Decimal} {x : Rat} (worth : d.value? = some x)
    (long : 10 ^ Decimal.formableDigits memory ≤ |x|) :
    integerWithin memory (.decimal d) = .fail (.fault .outOfMemory) := by
  cases d with
  | finite negative coefficient exponent =>
    have unformed := (Decimal.lt_integerPlaces_iff worth).mpr long
    exact (Faulty.outOfMemory negative unformed).formatter_eq
  | infinity | nan => nomatch worth

end Format

namespace Value

/-- The exact value of a finite number. -/
def number? : Value → Option Rat
  | .bool b => some b.toInt
  | .int n => some n
  | .float x => x.value?
  | .decimal d => d.value?
  | _ => none

end Value

namespace Format

theorem quantity_of_number {v : Value} {x : Rat} (worth : v.number? = some x) :
    ∃ quantity, quantity? v = .ok quantity ∧ quantity.value? = some x ∧
      ∀ d, quantity = .decimal d → v = .decimal d := by
  cases v with
  | decimal d => exact ⟨_, rfl, worth, fun _ same => congrArg _ (Quantity.decimal.inj same)⟩
  | bool | int | float => exact ⟨_, rfl, worth, nofun⟩
  | _ => nomatch worth

/-- **Numbers are written exactly.** `?d` writes the integer part of a number, toward zero, and `?`
an integer, unless it has more than 4300 digits: then it is a mismatch. The text is the only numeral
of the integer without needless marks. Only for a decimal whose integer part is too long for the
memory there is, or for any, `?d` ends in a fault instead. A decimal of any length and exponent is
written by `?` as a numeral of its very value. -/
theorem written_exactly (memory : Nat) (d : Dialect) :
    (∀ v x, v.number? = some x →
      (∀ dec, v = .decimal dec → |x| < 10 ^ Decimal.formableDigits memory) →
      WritesInteger .integer (towardZero x) ((integerWithin memory v).render d).result) ∧
    (∀ dec x, Decimal.value? dec = some x → 10 ^ Decimal.formableDigits memory ≤ |x| →
      ((integerWithin memory (.decimal dec)).render d).result = .error (.fault .outOfMemory)) ∧
    (∀ n, WritesInteger .any n ((scalar (.int n)).render d).result) ∧
    (∀ negative coefficient exponent, ∃ numeral : Numeral,
      ((scalar (.decimal (.finite negative coefficient exponent))).render d).result =
        .ok numeral.text ∧ numeral.Plain ∧
      (Decimal.finite negative coefficient exponent).value? = some numeral.value) ∧
    integerDigits = 4300 ∧ Decimal.formableDigits memory = min memory 2711437152599294 := by
  refine ⟨?_, ?_, ?_, ?_, rfl, rfl⟩
  · intro v x worth formable
    obtain ⟨quantity, read, same, decimal⟩ := quantity_of_number worth
    have filled : v ≠ .null := by
      rintro rfl
      nomatch worth
    refine writes_integer memory filled read same (fun dec known => ?_) d
    exact formable dec (decimal dec known)
  · intro dec x worth long
    rw [integer_outOfMemory worth long]
    rfl
  · intro n
    have drafted : scalar (.int n) = ofTextOrMismatch .any (integerText n) := by
      rw [scalar, scalar?]
      cases integerText n <;> rfl
    rw [drafted]
    exact writesInteger d .any n
  · intro negative coefficient exponent
    obtain ⟨numeral, written, plain, worth⟩ :=
      Decimal.exists_numeral negative coefficient exponent
    refine ⟨numeral, ?_, plain, ?_⟩
    · rw [← written]
      exact congrArg Rendering.result (Draft.render_sql d _)
    · rw [worth, Decimal.value?_finite]

/-- A negative fraction is cut off toward zero, not rounded and not down, with memory for no more
than its one digit. -/
theorem written_exactly_negative :
    let v : Value := .decimal (.finite true 79999 (-4))
    let x : Rat := -79999 / 10000
    v.number? = some x ∧ (∀ dec, v = .decimal dec → |x| < 10 ^ Decimal.formableDigits 1) ∧
      towardZero x = -7 ∧
      WritesInteger .integer (-7) ((integerWithin 1 v).render .default).result := by
  intro v x
  have worth : v.number? = some x := by decide +kernel
  have small : |x| < 10 ^ Decimal.formableDigits 1 := by decide +kernel
  have whole : towardZero x = -7 := by decide +kernel
  have written := (written_exactly 1 .default).1 v x worth fun _ _ => small
  rw [whole] at written
  exact ⟨worth, fun _ _ => small, whole, written⟩

/-- A decimal of a few marks can have an integer part that is too long for any memory; what it ends
in is no mismatch. -/
theorem integer_huge_decimal :
    let v : Value := .decimal (.finite false 1 999999999999999999)
    let x : Rat := withSign false ((1 : Nat) * 10 ^ (999999999999999999 : Int))
    v.number? = some x ∧
      ((integer v).render .default).result = .error (.fault .outOfMemory) ∧
      ¬ WritesInteger .integer (towardZero x) ((integer v).render .default).result := by
  intro v x
  have failed : ((integer v).render .default).result = .error (.fault .outOfMemory) := rfl
  refine ⟨Decimal.value?_finite false 1 999999999999999999, failed, fun writes => ?_⟩
  rw [failed] at writes
  generalize towardZero x = n at writes
  cases writes

end Format

end SqlTemplate
