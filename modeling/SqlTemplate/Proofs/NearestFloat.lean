import SqlTemplate.Number.Binary64
import SqlTemplate.Proofs.NumeralValue
import Mathlib.Tactic.Linarith

/-!
# Rounding to the nearest float

A magnitude is rounded to the nearest number of 53 bits and on a tie to an even mantissa, as if the
exponent had no upper end (`Binary64.Nearest`); where that needs too large an exponent, it is
rounded to infinity, which happens from `2 ^ 1024 - 2 ^ 970` on (`Binary64.Nearest.exceeds_iff`).
The conversions from integers and from decimals all round like this (`Binary64.rounds_ofMagnitude`).
-/

namespace SqlTemplate.Binary64

/-! ## The nearest number -/

/-- `mantissa · 2 ^ exponent` is nearest to the magnitude `x` among the numbers of 53 bits, and its
mantissa is even if another one is just as near. Only next to zero it has fewer bits. -/
structure Nearest (x : Rat) (mantissa : Nat) (exponent : Int) : Prop where
  mantissa_lt : mantissa < 2 * leastNormal
  normal : leastNormal ≤ mantissa ∨ exponent = -1074
  least : -1074 ≤ exponent
  nearest : ∀ m (e : Int), m < 2 * leastNormal → -1074 ≤ e →
    |(mantissa : Rat) * 2 ^ exponent - x| ≤ |(m : Rat) * 2 ^ e - x|
  even : ∀ m (e : Int), m < 2 * leastNormal → -1074 ≤ e →
    |(m : Rat) * 2 ^ e - x| = |(mantissa : Rat) * 2 ^ exponent - x| →
      (m : Rat) * 2 ^ e = mantissa * 2 ^ exponent ∨ mantissa % 2 = 0

/-- The middle between the greatest finite number and the power of two behind it. -/
def overflow : Rat :=
  2 ^ (1024 : Int) - 2 ^ (970 : Int)

/-- `x` is rounded to the nearest number, with its own sign, and to infinity where the nearest one
would be too large. -/
inductive Rounds (x : Rat) : Binary64 → Prop
  | finite {negative : Bool} {mantissa : Nat} {exponent : Int} : |x| < overflow →
    (x < 0 → negative = true) → (0 < x → negative = false) → exponent ≤ 971 →
    Nearest |x| mantissa exponent → Rounds x (.finite negative mantissa exponent)
  | infinity : overflow ≤ |x| → Rounds x (.infinity (decide (x < 0)))

/-! ## Rounding to an integer -/

theorem roundHalfEven_near (x : Rat) :
    |(roundHalfEven x : Rat) - x| ≤ 1 / 2 ∧
      (|(roundHalfEven x : Rat) - x| = 1 / 2 → roundHalfEven x % 2 = 0) := by
  have low : (x.floor : Rat) ≤ x := Int.floor_le x
  have high : x < x.floor + 1 := Int.lt_floor_add_one x
  unfold roundHalfEven
  simp only
  split
  · next less =>
    rw [abs_sub_comm, abs_of_nonneg (by linarith)]
    exact ⟨less.le, fun tie => absurd tie less.ne⟩
  split
  · next more =>
    rw [abs_of_nonneg (by push_cast; linarith)]
    push_cast
    exact ⟨by linarith, fun tie => by linarith⟩
  · have half : x - x.floor = 1 / 2 := by linarith
    split
    · next even =>
      rw [abs_sub_comm, half]
      exact ⟨by norm_num, fun _ => even⟩
    · next odd =>
      have up : ((x.floor + 1 : Int) : Rat) - x = 1 / 2 := by
        push_cast
        linarith
      rw [up]
      exact ⟨by norm_num, fun _ => by omega⟩

/-- No integer is nearer, and on a tie the integer is even. -/
theorem roundHalfEven_nearest (x : Rat) (k : Int) :
    |(roundHalfEven x : Rat) - x| ≤ |(k : Rat) - x| ∧
      (|(k : Rat) - x| = |(roundHalfEven x : Rat) - x| →
        k = roundHalfEven x ∨ roundHalfEven x % 2 = 0) := by
  obtain ⟨near, tie⟩ := roundHalfEven_near x
  by_cases same : k = roundHalfEven x
  · exact ⟨by rw [same], fun _ => .inl same⟩
  · have apart : (1 : Rat) ≤ |(k : Rat) - roundHalfEven x| := by
      exact_mod_cast Int.one_le_abs (sub_ne_zero.mpr same)
    have between := abs_sub_le (k : Rat) x (roundHalfEven x)
    rw [abs_sub_comm x] at between
    exact ⟨by linarith, fun equal => .inr (tie (by linarith))⟩

/-! ## The exponent of the last bit -/

/-- The logarithms of the parts of a fraction tell its own up to one. -/
theorem log2_bracket {a b : Nat} (positive : a ≠ 0) (nonzero : b ≠ 0) :
    (2 : Rat) ^ ((a.log2 : Int) - b.log2 - 1) ≤ a / b ∧
      (a / b : Rat) < 2 ^ ((a.log2 : Int) - b.log2 + 1) := by
  have aLow : (2 : Rat) ^ a.log2 ≤ a := by exact_mod_cast Nat.log2_self_le positive
  have aHigh : (a : Rat) < 2 ^ (a.log2 + 1) := by exact_mod_cast Nat.lt_log2_self
  have bLow : (2 : Rat) ^ b.log2 ≤ b := by exact_mod_cast Nat.log2_self_le nonzero
  have bHigh : (b : Rat) < 2 ^ (b.log2 + 1) := by exact_mod_cast Nat.lt_log2_self
  have den : (0 : Rat) < b := by exact_mod_cast Nat.pos_of_ne_zero nonzero
  constructor
  · have split : (2 : Rat) ^ ((a.log2 : Int) - b.log2 - 1) = 2 ^ a.log2 / 2 ^ (b.log2 + 1) := by
      rw [sub_sub, zpow_sub₀ (by decide), zpow_natCast]
      norm_cast
    rw [split, div_le_div_iff₀ (by positivity) den]
    gcongr
  · have split : (2 : Rat) ^ ((a.log2 : Int) - b.log2 + 1) = 2 ^ (a.log2 + 1) / 2 ^ b.log2 := by
      rw [sub_add_eq_add_sub, zpow_sub₀ (by decide), zpow_natCast]
      norm_cast
    rw [split, div_lt_div_iff₀ den (by positivity)]
    exact mul_lt_mul aHigh bLow (by positivity) (by positivity)

theorem unitExponent_spec {x : Rat} (positive : 0 < x) :
    -1074 ≤ unitExponent x ∧ x < 2 ^ (unitExponent x + 53) ∧
      (unitExponent x = -1074 ∨ (2 : Rat) ^ (unitExponent x + 52) ≤ x) := by
  have num := Rat.num_pos.mpr positive
  obtain ⟨low, high⟩ := log2_bracket (Int.natAbs_ne_zero.mpr num.ne') x.den_ne_zero
  have fraction : (x.num.natAbs : Rat) / x.den = x := by
    rw [Nat.cast_natAbs, abs_of_pos num, Rat.num_div_den]
  rw [fraction] at low high
  let guess : Int := (x.num.natAbs.log2 : Int) - x.den.log2 - 53
  have unit : unitExponent x = max (-1074) (if x < 2 ^ (guess + 53) then guess else guess + 1) :=
    rfl
  -- The exponent before it is bounded from below; then raising it only widens the range.
  obtain ⟨e, chosen, above, below⟩ : ∃ e : Int, unitExponent x = max (-1074) e ∧
      x < 2 ^ (e + 53) ∧ (2 : Rat) ^ (e + 52) ≤ x := by
    by_cases less : x < 2 ^ (guess + 53)
    · refine ⟨guess, by rw [unit, if_pos less], less, ?_⟩
      rwa [show guess + 52 = (x.num.natAbs.log2 : Int) - x.den.log2 - 1 by omega]
    · refine ⟨guess + 1, by rw [unit, if_neg less], ?_, ?_⟩
      · rwa [show guess + 1 + 53 = (x.num.natAbs.log2 : Int) - x.den.log2 + 1 by omega]
      · rw [show guess + 1 + 52 = guess + 53 by omega]
        exact not_lt.mp less
  rw [chosen]
  refine ⟨le_max_left _ _, above.trans_le (zpow_le_zpow_right₀ (by norm_num) (by omega)), ?_⟩
  rcases le_total e (-1074) with low | high
  · exact .inl (max_eq_left low)
  · rw [max_eq_right high]
    exact .inr below

/-! ## The nearest number is found -/

theorem leastNormal_mul (unit : Int) : (leastNormal : Rat) * 2 ^ unit = 2 ^ (unit + 52) := by
  have power : (leastNormal : Rat) = 2 ^ (52 : Int) := by norm_num [leastNormal]
  rw [power, ← zpow_add₀ (by decide), add_comm]

/-- The nearest multiple of a power of two is nearest among all numbers of 53 bits, if those that
are no multiples of it lie below the magnitude. -/
theorem grid_nearest {x : Rat} {unit : Int} (fine : unit = -1074 ∨ (2 : Rat) ^ (unit + 52) ≤ x)
    {m : Nat} {e : Int} (bits : m < 2 * leastNormal) (least : -1074 ≤ e) :
    let r : Rat := roundHalfEven (x / 2 ^ unit)
    |r * 2 ^ unit - x| ≤ |m * 2 ^ e - x| ∧
      (|m * 2 ^ e - x| = |r * 2 ^ unit - x| →
        m * 2 ^ e = r * 2 ^ unit ∨ roundHalfEven (x / 2 ^ unit) % 2 = 0) := by
  intro r
  have step : (0 : Rat) < 2 ^ unit := by positivity
  have scale (k : Rat) : |k * 2 ^ unit - x| = |k - x / 2 ^ unit| * 2 ^ unit := by
    rw [← abs_of_pos step, ← abs_mul, abs_of_pos step, sub_mul, div_mul_cancel₀ _ step.ne']
  have near := roundHalfEven_nearest (x / 2 ^ unit)
  rcases le_or_gt unit e with multiple | finer
  · obtain ⟨k, rfl⟩ := Int.le.dest multiple
    have grid : (m : Rat) * 2 ^ (unit + k) = ((m * 2 ^ k : Nat) : Int) * 2 ^ unit := by
      rw [zpow_add₀ (by decide), zpow_natCast]
      push_cast
      ring
    obtain ⟨nearer, tie⟩ := near (m * 2 ^ k : Nat)
    rw [grid, scale, scale]
    refine ⟨mul_le_mul_of_nonneg_right nearer step.le, fun equal => ?_⟩
    rcases tie (mul_right_cancel₀ step.ne' equal) with same | even
    · exact .inl (by rw [same])
    · exact .inr even
  · have reached := fine.resolve_left (by omega)
    have less : (m : Rat) * 2 ^ e < 2 ^ (unit + 52) := by
      have bits' : (m : Rat) < 2 ^ (53 : Int) := by exact_mod_cast bits
      calc (m : Rat) * 2 ^ e < 2 ^ (53 : Int) * 2 ^ e := by gcongr
        _ = 2 ^ (e + 53) := by rw [← zpow_add₀ (by decide), add_comm]
        _ ≤ 2 ^ (unit + 52) := zpow_le_zpow_right₀ (by norm_num) (by omega)
    have nearer : |r * 2 ^ unit - x| ≤ x - 2 ^ (unit + 52) := by
      have bound := mul_le_mul_of_nonneg_right (near (leastNormal : Int)).1 step.le
      rw [Int.cast_natCast, ← scale, ← scale, leastNormal_mul, abs_sub_comm, abs_sub_comm _ x,
        abs_of_nonneg (sub_nonneg.mpr reached)] at bound
      rwa [abs_sub_comm]
    have farther : x - 2 ^ (unit + 52) < |m * 2 ^ e - x| := by
      rw [abs_sub_comm, abs_of_nonneg (by linarith)]
      linarith
    exact ⟨by linarith, fun equal => by linarith⟩

/-- The mantissa before a carry. -/
theorem mantissa_range {x : Rat} (positive : 0 ≤ x) {unit : Int} (below : x < 2 ^ (unit + 53))
    (fine : unit = -1074 ∨ (2 : Rat) ^ (unit + 52) ≤ x) :
    ∃ m : Nat, roundHalfEven (x / 2 ^ unit) = m ∧ m ≤ 2 * leastNormal ∧
      (unit = -1074 ∨ leastNormal ≤ m) := by
  have step : (0 : Rat) < 2 ^ unit := by positivity
  have near := (roundHalfEven_near (x / 2 ^ unit)).1
  obtain ⟨low, high⟩ := abs_le.mp near
  have scaled : 0 ≤ x / 2 ^ unit := by positivity
  have bits : x / 2 ^ unit < 2 * leastNormal := by
    rw [div_lt_iff₀ step, mul_assoc, leastNormal_mul, ← zpow_one_add₀ (by decide)]
    exact below.trans_eq (by ring_nf)
  have nonneg : 0 ≤ roundHalfEven (x / 2 ^ unit) := by
    have : (-1 : Rat) < roundHalfEven (x / 2 ^ unit) := by linarith
    have : (-1 : Int) < roundHalfEven (x / 2 ^ unit) := by exact_mod_cast this
    omega
  obtain ⟨m, rounded⟩ := Int.eq_ofNat_of_zero_le nonneg
  rw [rounded, Int.cast_natCast] at low high
  refine ⟨m, rounded, ?_, fine.imp_right fun reached => ?_⟩
  · have : (m : Rat) < (2 * leastNormal + 1 : Nat) := by
      push_cast
      linarith
    exact Nat.le_of_lt_succ (by exact_mod_cast this)
  · have normal : leastNormal ≤ x / 2 ^ unit := by
      rwa [le_div_iff₀ step, leastNormal_mul]
    have : (leastNormal : Rat) < (m + 1 : Nat) := by
      push_cast
      linarith
    exact Nat.le_of_lt_succ (by exact_mod_cast this)

/-- The number that a magnitude is rounded to, before its exponent is looked at. -/
theorem exists_nearest {x : Rat} (positive : 0 ≤ x) (negative : Bool) :
    ∃ mantissa exponent, Nearest x mantissa exponent ∧
      ofMagnitude negative x =
        if 971 < exponent then .infinity negative else .finite negative mantissa exponent := by
  rcases positive.eq_or_lt with rfl | positive
  · refine ⟨0, -1074, ⟨by decide, .inr rfl, le_rfl, ?_, fun _ _ _ _ _ => .inr rfl⟩, ?_⟩
    · intro m e _ _
      simp only [Nat.cast_zero, zero_mul, sub_zero, abs_zero]
      exact abs_nonneg _
    · simp [ofMagnitude, zero]
  obtain ⟨least, below, fine⟩ := unitExponent_spec positive
  obtain ⟨m, rounded, bits, normal⟩ := mantissa_range positive.le below fine
  have grid {k : Nat} {e : Int} (bits : k < 2 * leastNormal) (least : -1074 ≤ e) :=
    grid_nearest fine bits least
  simp only [rounded, Int.cast_natCast] at grid
  by_cases carry : m = 2 * leastNormal
  · -- The mantissa is one bit too long, and the exponent goes up instead.
    have same : (leastNormal : Rat) * 2 ^ (unitExponent x + 1) = m * 2 ^ unitExponent x := by
      rw [carry, zpow_add_one₀ (by decide)]
      push_cast
      ring
    refine ⟨leastNormal, unitExponent x + 1, ⟨by decide, .inl le_rfl, by omega, ?_, ?_⟩, ?_⟩
    · intro k e bits least
      rw [same]
      exact (grid bits least).1
    · intro k e _ _ _
      exact .inr (by decide)
    · simp only [ofMagnitude, not_le.mpr positive, ↓reduceIte, rounded, Int.toNat_natCast, carry]
  · refine ⟨m, unitExponent x, ⟨by omega, normal.symm, least, ?_, ?_⟩, ?_⟩
    · intro k e bits least
      exact (grid bits least).1
    · intro k e bits least tie
      exact ((grid bits least).2 tie).imp_right fun even => by omega
    · simp only [ofMagnitude, not_le.mpr positive, ↓reduceIte, rounded, Int.toNat_natCast, carry]

/-! ## Overflow and underflow -/

/-- The numbers with the greatest mantissas, counted down from the power of two behind them. -/
theorem below_power (top : Int) {j : Nat} (few : j ≤ 2 * leastNormal) :
    ((2 * leastNormal - j : Nat) : Rat) * 2 ^ top = 2 ^ (top + 53) - j * 2 ^ top := by
  have power : (2 : Rat) ^ (top + 53) = 2 * (leastNormal * 2 ^ top) := by
    rw [leastNormal_mul, ← zpow_one_add₀ (by decide)]
    ring_nf
  rw [Nat.cast_sub few, power]
  push_cast
  ring

theorem two_mul_half_unit (top : Int) : (2 : Rat) ^ top = 2 * 2 ^ (top - 1) := by
  rw [← zpow_one_add₀ (by decide), add_sub_cancel]

namespace Nearest

variable {x : Rat} {mantissa : Nat} {exponent : Int}

/-- A number with an exponent above `top` is chosen only if the greatest one with `top` is not
nearer. -/
theorem le_of_exceeds (near : Nearest x mantissa exponent) {top : Int} (least : -1074 ≤ top)
    (large : top < exponent) : (2 : Rat) ^ (top + 53) - 2 ^ (top - 1) ≤ x := by
  have unit := two_mul_half_unit top
  have positive : (0 : Rat) < 2 ^ (top - 1) := by positivity
  have value : (2 : Rat) ^ (top + 53) ≤ mantissa * 2 ^ exponent := by
    have filled : leastNormal ≤ mantissa := near.normal.resolve_right (by omega)
    have step : (2 : Rat) ^ (top + 1) ≤ 2 ^ exponent := zpow_le_zpow_right₀ (by norm_num) large
    calc (2 : Rat) ^ (top + 53) = leastNormal * 2 ^ (top + 1) := by
          rw [leastNormal_mul, add_assoc]
          rfl
      _ ≤ mantissa * 2 ^ exponent := by gcongr
  have nearest := near.nearest (2 * leastNormal - 1) top (by decide) least
  rw [below_power top (by decide), Nat.cast_one, one_mul, unit] at nearest
  by_contra! less
  rw [abs_of_nonneg (by linarith)] at nearest
  rcases abs_cases ((2 : Rat) ^ (top + 53) - 2 * 2 ^ (top - 1) - x) with ⟨eq, -⟩ | ⟨eq, -⟩
  · linarith
  · linarith

/-- Up to the exponent `top` the power of two behind would be as near, and the greatest mantissa,
being odd, is no choice then. -/
theorem exceeds_of_le (near : Nearest x mantissa exponent) {top : Int} (least : -1074 ≤ top)
    (reached : (2 : Rat) ^ (top + 53) - 2 ^ (top - 1) ≤ x) : top < exponent := by
  have unit := two_mul_half_unit top
  have positive : (0 : Rat) < 2 ^ (top - 1) := by positivity
  have bits := near.mantissa_lt
  by_contra! fits
  have bounded {j : Nat} (few : j ≤ 2 * leastNormal) (less : mantissa ≤ 2 * leastNormal - j) :
      mantissa * 2 ^ exponent ≤ (2 : Rat) ^ (top + 53) - j * 2 ^ top := by
    rw [← below_power top few]
    have step : (2 : Rat) ^ exponent ≤ 2 ^ top := zpow_le_zpow_right₀ (by norm_num) fits
    gcongr
  have value := bounded (j := 1) (by decide) (by omega)
  rw [Nat.cast_one, one_mul, unit] at value
  have nearest := near.nearest leastNormal (top + 1) (by decide) (by omega)
  have even := near.even leastNormal (top + 1) (by decide) (by omega)
  have distance : |mantissa * 2 ^ exponent - x| = x - mantissa * 2 ^ exponent := by
    rw [abs_sub_comm]
    exact abs_of_nonneg (by linarith)
  rw [leastNormal_mul, add_assoc, show (1 : Int) + 52 = 53 from rfl, distance] at nearest even
  rcases abs_cases ((2 : Rat) ^ (top + 53) - x) with ⟨eq, -⟩ | ⟨eq, -⟩
  · rcases even (by linarith) with same | even
    · linarith
    · have smaller := bounded (j := 2) (by decide) (by omega)
      rw [unit] at smaller
      push_cast at smaller
      linarith
  · linarith

/-- The exponent of the nearest number exceeds `top` from the middle behind the greatest number with
that exponent on. -/
theorem exceeds_iff (near : Nearest x mantissa exponent) {top : Int} (least : -1074 ≤ top) :
    top < exponent ↔ (2 : Rat) ^ (top + 53) - 2 ^ (top - 1) ≤ x :=
  ⟨near.le_of_exceeds least, near.exceeds_of_le least⟩

/-- Next to zero the nearest number is zero. -/
theorem eq_zero_of_lt (near : Nearest x mantissa exponent) (positive : 0 ≤ x)
    (tiny : x < 2 ^ (-1075 : Int)) : mantissa = 0 ∧ exponent = -1074 := by
  have nearest := near.nearest 0 (-1074) (by decide) le_rfl
  have value : mantissa * 2 ^ exponent < (2 : Rat) ^ exponent := by
    rw [Nat.cast_zero, zero_mul, zero_sub, abs_neg, abs_of_nonneg positive] at nearest
    have step : (2 : Rat) ^ (-1074 : Int) ≤ 2 ^ exponent :=
      zpow_le_zpow_right₀ (by norm_num) near.least
    have double : (2 : Rat) ^ (-1074 : Int) = 2 * 2 ^ (-1075 : Int) :=
      zpow_one_add₀ (by decide) (-1075)
    have := le_abs_self (mantissa * 2 ^ exponent - x)
    linarith
  have none : mantissa = 0 := by
    have step : (0 : Rat) < 2 ^ exponent := by positivity
    have : (mantissa : Rat) < 1 := (mul_lt_iff_lt_one_left step).mp value
    exact Nat.lt_one_iff.mp (by exact_mod_cast this)
  exact ⟨none, near.normal.resolve_left (by rw [none]; decide)⟩

/-- A magnitude that is a number is nearest to itself. -/
theorem value_eq (near : Nearest x mantissa exponent) {m : Nat} {e : Int}
    (bits : m < 2 * leastNormal) (least : -1074 ≤ e) (same : x = m * 2 ^ e) :
    mantissa * 2 ^ exponent = x := by
  have nearest := near.nearest m e bits least
  rw [← same, sub_self, abs_zero] at nearest
  exact sub_eq_zero.mp (abs_nonpos_iff.mp nearest)

end Nearest

theorem zpow_le_overflow {k : Int} (small : k ≤ 1023) : (2 : Rat) ^ k ≤ overflow := by
  have half : (2 : Rat) ^ (1024 : Int) = 2 ^ (1023 : Int) + 2 ^ (1023 : Int) := by
    rw [← two_mul, ← zpow_one_add₀ (by decide)]
    rfl
  have less : (2 : Rat) ^ (970 : Int) ≤ 2 ^ (1023 : Int) :=
    zpow_le_zpow_right₀ (by norm_num) (by decide)
  calc (2 : Rat) ^ k ≤ 2 ^ (1023 : Int) := zpow_le_zpow_right₀ (by norm_num) small
    _ ≤ overflow := by
      rw [overflow, half]
      exact le_sub_right_of_add_le (add_le_add_right less _)

theorem overflow_pos : 0 < overflow :=
  (zpow_pos (by norm_num) 0).trans_le (zpow_le_overflow (k := 0) (by decide))

/-! ## The conversions -/

/-- **Magnitudes are rounded to the nearest number**, with the sign that is given. -/
theorem rounds_ofMagnitude {x : Rat} (positive : 0 ≤ x) (negative : Bool) :
    Rounds (withSign negative x) (ofMagnitude negative x) := by
  obtain ⟨mantissa, exponent, near, rounded⟩ := exists_nearest positive negative
  have size := abs_withSign positive negative
  have beyond : 971 < exponent ↔ overflow ≤ x := near.exceeds_iff (by decide)
  rw [rounded]
  split
  · next large =>
    have reached := beyond.mp large
    have sign : decide (withSign negative x < 0) = negative :=
      Bool.eq_iff_iff.mpr
        (decide_eq_true_iff.trans (withSign_neg_iff (overflow_pos.trans_le reached)))
    have infinite := Rounds.infinity (size.symm ▸ reached : overflow ≤ |withSign negative x|)
    rwa [sign] at infinite
  · next fits =>
    have less : x < overflow := not_le.mp (mt beyond.mpr fits)
    refine .finite (size.symm ▸ less) ?_ ?_ (not_lt.mp fits) (size.symm ▸ near)
    · intro below
      cases negative with
      | false => exact absurd positive (not_le.mpr below)
      | true => rfl
    · intro above
      cases negative with
      | false => rfl
      | true => exact absurd positive (not_le.mpr (neg_pos.mp above))

/-- The number nearest to `x`. -/
def ofRat (x : Rat) : Binary64 :=
  ofMagnitude (decide (x < 0)) |x|

theorem rounds_ofRat (x : Rat) : Rounds x (ofRat x) := by
  have rounds := rounds_ofMagnitude (abs_nonneg x) (decide (x < 0))
  have whole : withSign (decide (x < 0)) |x| = x := by
    rcases lt_or_ge x 0 with negative | positive
    · simp [withSign, negative, abs_of_neg]
    · simp [withSign, not_lt.mpr positive, abs_of_nonneg positive]
  rwa [whole] at rounds

/-- For a number other than zero the sign goes without saying. -/
theorem ofMagnitude_eq_ofRat {x : Rat} (positive : 0 < x) (negative : Bool) :
    ofMagnitude negative x = ofRat (withSign negative x) := by
  have sign : decide (withSign negative x < 0) = negative :=
    Bool.eq_iff_iff.mpr (decide_eq_true_iff.trans (withSign_neg_iff positive))
  rw [ofRat, sign, abs_withSign positive.le]

theorem ofInt_eq (n : Int) : ofInt n = ofRat n := by
  have size : ((n.natAbs : Nat) : Rat) = |(n : Rat)| := by
    rw [Nat.cast_natAbs, Int.cast_abs]
  have sign : (n : Rat) < 0 ↔ n < 0 := Int.cast_lt_zero
  rw [ofInt, ofRat, size, decide_eq_decide.mpr sign]

theorem two_zpow_le_ten_zpow {k : Int} (positive : 0 ≤ k) : (2 : Rat) ^ (3 * k) ≤ 10 ^ k := by
  rw [zpow_mul]
  exact zpow_le_zpow_left₀ positive (by positivity) (by norm_num)

theorem overflow_le_ten_zpow : overflow ≤ (10 : Rat) ^ (400 : Int) :=
  calc overflow ≤ (2 : Rat) ^ (1024 : Int) := sub_le_self _ (by positivity)
    _ ≤ 2 ^ (3 * 400 : Int) := zpow_le_zpow_right₀ (by norm_num) (by decide)
    _ ≤ 10 ^ (400 : Int) := two_zpow_le_ten_zpow (by decide)

/-- No number is affected by the two ends beyond which no power of ten is formed. -/
theorem ofScientific_eq (negative : Bool) (coefficient : Nat) (exponent : Int) :
    ofScientific negative coefficient exponent =
      ofMagnitude negative (coefficient * 10 ^ exponent) := by
  by_cases none : coefficient = 0
  · simp [ofScientific, ofMagnitude, none]
  have positive : (0 : Rat) ≤ coefficient * 10 ^ exponent := by positivity
  obtain ⟨mantissa, e, near, rounded⟩ := exists_nearest positive negative
  by_cases large : 400 < ((Nat.toDigits 10 coefficient).length : Int) + exponent
  · have reached : overflow ≤ coefficient * 10 ^ exponent := by
      calc overflow ≤ (10 : Rat) ^ (400 : Int) := overflow_le_ten_zpow
        _ ≤ 10 ^ (((Nat.toDigits 10 coefficient).length : Int) - 1 + exponent) :=
          zpow_le_zpow_right₀ (by norm_num) (by omega)
        _ ≤ coefficient * 10 ^ exponent := decade_le (Nat.pos_of_ne_zero none) exponent
    have infinite : 971 < e := (near.exceeds_iff (by decide)).mpr reached
    rw [rounded, if_pos infinite]
    simp only [ofScientific, none, large, ↓reduceIte]
  by_cases tiny : ((Nat.toDigits 10 coefficient).length : Int) + exponent < -400
  · have under : coefficient * 10 ^ exponent < (2 : Rat) ^ (-1075 : Int) := by
      calc (coefficient : Rat) * 10 ^ exponent
          < 10 ^ (((Nat.toDigits 10 coefficient).length : Int) + exponent) := lt_decade _ _
        _ ≤ 10 ^ (-401 : Int) := zpow_le_zpow_right₀ (by norm_num) (by omega)
        _ ≤ 2 ^ (-(3 * 401) : Int) := by
          rw [zpow_neg, zpow_neg]
          exact inv_anti₀ (by positivity) (two_zpow_le_ten_zpow (by decide))
        _ ≤ 2 ^ (-1075 : Int) := zpow_le_zpow_right₀ (by norm_num) (by decide)
    obtain ⟨rfl, rfl⟩ := near.eq_zero_of_lt positive under
    rw [rounded]
    simp [ofScientific, none, large, tiny, zero]
  · simp only [ofScientific, none, large, tiny, ↓reduceIte]

namespace Rounds

variable {x : Rat} {y : Binary64}

theorem isFinite_iff (rounds : Rounds x y) : y.isFinite = true ↔ |x| < overflow := by
  cases rounds with
  | finite less => exact ⟨fun _ => less, fun _ => rfl⟩
  | infinity reached => exact ⟨nofun, fun less => absurd less (not_lt.mpr reached)⟩

/-- A number that has a float is rounded to itself. -/
theorem value?_eq (rounds : Rounds x y) (less : |x| < overflow) {m : Nat} {e : Int}
    (bits : m < 2 * leastNormal) (least : -1074 ≤ e) (same : |x| = m * 2 ^ e) :
    y.value? = some x := by
  cases rounds with
  | infinity reached => exact absurd less (not_lt.mpr reached)
  | finite _ below above _ near =>
    rw [value?_finite, near.value_eq bits least same]
    rcases lt_trichotomy x 0 with negative | rfl | positive
    · rw [below negative, abs_of_neg negative]
      exact congrArg some (neg_neg x)
    · rw [abs_zero]
      exact congrArg some (withSign_eq_zero_iff.mpr rfl)
    · rw [above positive, abs_of_pos positive]
      rfl

/-- The integers of up to 53 bits, and the next one. -/
theorem value?_intCast {k : Int} (rounds : Rounds (k : Rat) y) (small : k.natAbs ≤ 2 ^ 53) :
    y.value? = some (k : Rat) := by
  have size : |(k : Rat)| = k.natAbs := by rw [Nat.cast_natAbs, Int.cast_abs]
  have less : |(k : Rat)| < overflow := by
    have power : |(k : Rat)| < 2 ^ (54 : Int) := by
      rw [size]
      exact_mod_cast small.trans_lt (by decide)
    exact power.trans_le (zpow_le_overflow (by decide))
  rcases small.lt_or_eq with bits | edge
  · exact rounds.value?_eq less bits (by decide : (-1074 : Int) ≤ 0) (by rw [size]; simp)
  · refine rounds.value?_eq less (m := leastNormal) (by decide) (by decide : (-1074 : Int) ≤ 1) ?_
    rw [size, edge]
    norm_num [leastNormal]

end Rounds

end SqlTemplate.Binary64
