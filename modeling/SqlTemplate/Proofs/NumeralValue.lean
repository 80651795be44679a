import SqlTemplate.Number.Numeral
import SqlTemplate.Proofs.Digits
import Mathlib.Algebra.Order.Field.Power
import Mathlib.Data.Rat.Floor
import Mathlib.Tactic.FieldSimp

/-!
# What numerals are worth

The value of a numeral is said by places: the whole digits, the digits behind the point as a
fraction of one, and the exponent as a power of ten. It is the value of the decimal that is read
from it (`Numeral.value?_toDecimal`), and every decimal is written as a numeral of its own value
(`Decimal.exists_numeral`).
-/

namespace SqlTemplate

/-- A magnitude with a sign. -/
def withSign (negative : Bool) (x : Rat) : Rat :=
  if negative then -x else x

theorem abs_withSign {x : Rat} (positive : 0 ≤ x) (negative : Bool) :
    |withSign negative x| = x := by
  cases negative with
  | false => exact abs_of_nonneg positive
  | true => exact (abs_neg x).trans (abs_of_nonneg positive)

theorem withSign_eq_zero_iff {negative : Bool} {x : Rat} : withSign negative x = 0 ↔ x = 0 := by
  cases negative with
  | false => rfl
  | true => exact neg_eq_zero

/-- The sign of a number other than zero. -/
theorem withSign_neg_iff {x : Rat} (positive : 0 < x) {negative : Bool} :
    withSign negative x < 0 ↔ negative = true := by
  cases negative with
  | false => simp [withSign, positive.le]
  | true => simp [withSign, positive]

theorem Decimal.value?_finite (negative : Bool) (coefficient : Nat) (exponent : Int) :
    (finite negative coefficient exponent).value? =
      some (withSign negative (coefficient * 10 ^ exponent)) :=
  rfl

theorem Binary64.value?_finite (negative : Bool) (mantissa : Nat) (exponent : Int) :
    (finite negative mantissa exponent).value? =
      some (withSign negative (mantissa * 2 ^ exponent)) :=
  rfl

/-! ## The decade of a number -/

/-- A coefficient of `k` digits is less than the power of ten with `k` zeros. -/
theorem lt_decade (coefficient : Nat) (exponent : Int) :
    (coefficient : Rat) * 10 ^ exponent <
      10 ^ (((Nat.toDigits 10 coefficient).length : Int) + exponent) := by
  have below : coefficient < 10 ^ (Nat.toDigits 10 coefficient).length :=
    (Nat.length_toDigits_le_iff (by decide) Nat.length_toDigits_pos).mp (Nat.le_refl _)
  rw [zpow_add₀ (by decide), zpow_natCast]
  exact mul_lt_mul_of_pos_right (by exact_mod_cast below) (by positivity)

/-- A coefficient of `k + 1` digits reaches the power of ten with `k` zeros. -/
theorem decade_le {coefficient : Nat} (positive : 0 < coefficient) (exponent : Int) :
    (10 : Rat) ^ (((Nat.toDigits 10 coefficient).length : Int) - 1 + exponent) ≤
      coefficient * 10 ^ exponent := by
  obtain ⟨k, length⟩ := Nat.exists_eq_succ_of_ne_zero
    (Nat.length_toDigits_pos (b := 10) (n := coefficient)).ne'
  have reached : 10 ^ k ≤ coefficient := by
    rcases Nat.eq_zero_or_pos k with rfl | several
    · exact positive
    · refine Nat.le_of_not_lt fun below => ?_
      have := (Nat.length_toDigits_le_iff (by decide) several).mpr below
      omega
  rw [length, zpow_add₀ (by decide), Nat.succ_eq_add_one, Nat.cast_succ, add_sub_cancel_right,
    zpow_natCast]
  exact mul_le_mul_of_nonneg_right (by exact_mod_cast reached) (by positivity)

namespace Exponent

def value (e : Exponent) : Int :=
  e.sign.apply (Text.decimalValue e.digits)

/-- An exponent as it is written, with its sign. -/
def ofInt (k : Int) : Exponent :=
  ⟨CodePoint.ofChar 'E', if k < 0 then .minus else .plus, Text.ofNatPadded 1 k.natAbs⟩

theorem value_ofInt (k : Int) : (ofInt k).value = k := by
  simp only [value, ofInt, Text.decimalValue_ofNatPadded, Sign.apply]
  split
  · simp only [↓reduceIte]
    omega
  · simp only [reduceCtorEq, ↓reduceIte]
    omega

end Exponent

namespace Numeral

/-- The number that a numeral without its sign denotes. -/
def magnitude (n : Numeral) : Rat :=
  (Text.decimalValue n.whole +
      n.fraction.elim 0 fun f => (Text.decimalValue f : Rat) / 10 ^ f.length) *
    10 ^ n.exponent.elim 0 Exponent.value

/-- The number that a numeral denotes. -/
def value (n : Numeral) : Rat :=
  withSign (n.sign = .minus) n.magnitude

theorem magnitude_eq (n : Numeral) : n.magnitude = n.coefficient * 10 ^ n.scale := by
  obtain ⟨sign, whole, fraction, exponent⟩ := n
  have scale : scale ⟨sign, whole, fraction, exponent⟩ =
      exponent.elim 0 Exponent.value - ((fraction.getD []).length : Int) := rfl
  rw [magnitude, scale, coefficient, Text.decimalValue_append, zpow_sub₀ (by decide), zpow_natCast]
  cases fraction with
  | none => simp [Text.decimalValue]
  | some f =>
    simp only [Option.elim_some, Option.getD_some]
    push_cast
    field_simp

theorem magnitude_nonneg (n : Numeral) : 0 ≤ n.magnitude := by
  rw [magnitude_eq]
  positivity

/-- A numeral is worth as much as the decimal that is read from it. -/
theorem value?_toDecimal (n : Numeral) : n.toDecimal.value? = some n.value := by
  rw [toDecimal, Decimal.value?_finite, value, magnitude_eq]

theorem isInteger_eq_true_iff {n : Numeral} : n.isInteger = true ↔
    n.fraction = none ∧ n.exponent = none ∧ n.whole.length ≤ integerDigits := by
  simp only [isInteger, Bool.and_eq_true, Option.isNone_iff_eq_none, decide_eq_true_eq, and_assoc]

/-- A sign and digits are worth an integer. -/
theorem value_of_isInteger {n : Numeral} (integer : n.isInteger) :
    n.value = (n.sign.apply n.coefficient : Int) := by
  obtain ⟨sign, whole, fraction, exponent⟩ := n
  obtain ⟨rfl, rfl, -⟩ := isInteger_eq_true_iff.mp integer
  cases sign <;> simp [value, magnitude, withSign, coefficient, Sign.apply]

/-- A numeral in the digits of the first system, with digits wherever there can be some, a sign only
if that is a minus, and an exponent marked by `E` that has a sign. -/
structure Plain (n : Numeral) : Prop where
  sign : n.sign ≠ .plus
  whole : n.whole ≠ [] ∧ n.whole.Digits
  fraction : ∀ f, n.fraction = some f → f ≠ [] ∧ f.Digits
  exponent : ∀ e, n.exponent = some e →
    e.mark = 'E' ∧ e.sign ≠ .absent ∧ e.digits ≠ [] ∧ e.digits.Digits

/-- Digits with a point that is not put behind zeros are a numeral of the same digits. -/
theorem exists_pointed {digits : Text} (filled : digits ≠ []) (plain : digits.Digits) {place : Int}
    (near : place ≤ digits.length) :
    ∃ n : Numeral, n.Plain ∧ n.sign = .absent ∧ n.exponent = none ∧ digits.pointed place = n.text ∧
      n.coefficient = Text.decimalValue digits ∧
      ((n.fraction.getD []).length : Int) = digits.length - place := by
  unfold Text.pointed
  split
  · -- The point stands in front of the digits.
    refine ⟨⟨.absent, "0", some (Text.zeros (-place).toNat ++ digits), none⟩, ?_, rfl, rfl, ?_⟩
    · have zero : Text.ofString "0" ≠ [] ∧ (Text.ofString "0").Digits := by decide
      refine ⟨by simp, zero, ?_, by simp⟩
      rintro f ⟨⟩
      exact ⟨List.append_ne_nil_of_right_ne_nil _ filled,
        Text.digits_append.mpr ⟨Text.digits_zeros _, plain⟩⟩
    · refine ⟨by simp [text, Sign.text, Text.ofString], ?_, ?_⟩
      · have zero : Text.ofString "0" = Text.zeros 1 := rfl
        rw [coefficient, Option.getD_some, zero, Text.decimalValue_zeros_append,
          Text.decimalValue_zeros_append]
      · simp [Text.zeros]
        omega
  split
  · -- The point would stand behind the last digit and is left out.
    have whole : place.toNat - digits.length = 0 := by omega
    have bare : Plain ⟨.absent, digits, none, none⟩ :=
      ⟨by simp, ⟨filled, plain⟩, by simp, by simp⟩
    refine ⟨⟨.absent, digits, none, none⟩, bare, rfl, rfl, ?_⟩
    refine ⟨by simp [text, Sign.text, whole, Text.zeros], by simp [coefficient], ?_⟩
    simp only [Option.getD_none, List.length_nil]
    omega
  · have inside : place.toNat < digits.length := by omega
    refine ⟨⟨.absent, digits.take place.toNat, some (digits.drop place.toNat), none⟩, ?_, rfl, rfl,
      ?_⟩
    · refine ⟨by simp, ⟨?_, fun c mem => plain c (List.mem_of_mem_take mem)⟩, ?_, by simp⟩
      · rw [← List.length_pos_iff_ne_nil, List.length_take]
        omega
      · rintro f ⟨⟩
        refine ⟨?_, fun c mem => plain c (List.mem_of_mem_drop mem)⟩
        rw [← List.length_pos_iff_ne_nil, List.length_drop]
        omega
    · refine ⟨by simp [text, Sign.text], by simp [coefficient], ?_⟩
      simp only [Option.getD_some, List.length_drop]
      omega

/-- The numeral with a minus sign or without a sign. -/
def signed (n : Numeral) (negative : Bool) : Numeral :=
  { n with sign := if negative then .minus else .absent }

theorem text_signed {n : Numeral} (unsigned : n.sign = .absent) (negative : Bool) :
    (n.signed negative).text = n.text.signed negative := by
  obtain ⟨sign, whole, fraction, exponent⟩ := n
  subst unsigned
  cases negative with
  | false => rfl
  | true => simp [signed, text, Text.signed, Sign.text, Text.ofString]

theorem Plain.signed {n : Numeral} (plain : n.Plain) (negative : Bool) :
    (n.signed negative).Plain :=
  ⟨by cases negative <;> simp [Numeral.signed], plain.whole, plain.fraction, plain.exponent⟩

theorem value_signed (n : Numeral) (negative : Bool) :
    (n.signed negative).value = withSign negative n.magnitude := by
  cases negative <;> rfl

/-- The numeral times a power of ten. -/
def scaled (n : Numeral) (k : Int) : Numeral :=
  { n with exponent := some (.ofInt k) }

theorem text_scaled {n : Numeral} (bare : n.exponent = none) (k : Int) :
    (n.scaled k).text = n.text ++ CodePoint.ofChar 'E' :: Text.ofIntSigned 1 k := by
  have signs : (Exponent.ofInt k).text = CodePoint.ofChar 'E' :: Text.ofIntSigned 1 k := by
    unfold Exponent.ofInt Exponent.text Text.ofIntSigned
    split <;> rfl
  simp [scaled, text, bare, signs]

theorem Plain.scaled {n : Numeral} (plain : n.Plain) (k : Int) : (n.scaled k).Plain := by
  refine ⟨plain.sign, plain.whole, plain.fraction, ?_⟩
  rintro e ⟨⟩
  refine ⟨rfl, ?_, ?_, Text.digits_ofNatPadded 1 k.natAbs⟩
  · unfold Exponent.ofInt
    split <;> nofun
  · exact List.append_ne_nil_of_right_ne_nil _ (Text.ofNat_ne_nil _)

theorem magnitude_scaled {n : Numeral} (bare : n.exponent = none) (k : Int) :
    (n.scaled k).magnitude = n.magnitude * 10 ^ k := by
  simp [magnitude, scaled, bare, Exponent.value_ofInt]

end Numeral

namespace Decimal

/-- A finite decimal is written as a plain numeral of its value. -/
theorem exists_numeral (negative : Bool) (coefficient : Nat) (exponent : Int) :
    ∃ n : Numeral, (finite negative coefficient exponent).text = n.text ∧ n.Plain ∧
      n.value = withSign negative (coefficient * 10 ^ exponent) := by
  have filled := Text.ofNat_ne_nil coefficient
  have digits := Text.digits_ofNat coefficient
  have length := List.length_pos_iff_ne_nil.mpr filled
  rw [text]
  split
  · -- Positional: the point stands `exponent` places in front of the end.
    have near : (Text.ofNat coefficient).length + exponent ≤ (Text.ofNat coefficient).length := by
      omega
    obtain ⟨n, plain, unsigned, bare, written, worth, places⟩ :=
      Numeral.exists_pointed filled digits near
    refine ⟨n.signed negative, ?_, plain.signed negative, ?_⟩
    · rw [Numeral.text_signed unsigned, written]
    · have scale : n.scale = exponent := by
        rw [Numeral.scale, bare, Option.elim_none]
        omega
      rw [Numeral.value_signed, Numeral.magnitude_eq, worth, scale, Text.decimalValue_ofNat]
  · -- Scientific: the point stands behind the first digit, and the exponent makes up for it.
    have near : (1 : Int) ≤ (Text.ofNat coefficient).length := by omega
    obtain ⟨n, plain, unsigned, bare, written, worth, places⟩ :=
      Numeral.exists_pointed filled digits near
    let k : Int := (Text.ofNat coefficient).length + exponent - 1
    refine ⟨(n.scaled k).signed negative, ?_, (plain.scaled k).signed negative, ?_⟩
    · have unsigned' : (n.scaled k).sign = .absent := unsigned
      rw [Numeral.text_signed unsigned', Numeral.text_scaled bare, written]
    · have scale : n.scale + k = exponent := by
        rw [Numeral.scale, bare, Option.elim_none]
        omega
      rw [Numeral.value_signed, Numeral.magnitude_scaled bare, Numeral.magnitude_eq, worth,
        Text.decimalValue_ofNat, mul_assoc, ← zpow_add₀ (by decide), scale]

end Decimal

end SqlTemplate
