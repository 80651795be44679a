import SqlTemplate.Proofs.NumberText
import SqlTemplate.Text.DecimalDigit
import Mathlib.Data.List.Induction
import Mathlib.Tactic.Ring

/-!
# What digits are worth

A digit is worth its value times the power of ten of its place (`Text.decimalValue_append`), so the
digits that are written for a number are worth that number (`Text.decimalValue_ofNat`). An integer
has one numeral without needless signs and zeros: it is the one that is written
(`Text.canonical_ofInt`), and no two integers share it (`Text.Canonical.unique`).
-/

namespace SqlTemplate

/-- A digit of the first digit system is worth its distance from zero. -/
theorem CodePoint.decimalDigit?_of_isAsciiDigit {c : CodePoint} (digit : c.isAsciiDigit) :
    c.decimalDigit? = some (c.val - 0x30) := by
  have first : decimalZeros.find? (fun start => c.within start (start + 9)) = some 0x30 :=
    List.find?_cons_of_pos digit
  rw [decimalDigit?, first, Option.map_some]

theorem CodePoint.isDecimalDigit_of_isAsciiDigit {c : CodePoint} (digit : c.isAsciiDigit) :
    c.isDecimalDigit := by
  rw [isDecimalDigit, decimalDigit?_of_isAsciiDigit digit, Option.isSome_some]

theorem decimalDigit?_digitChar :
    ∀ n < 10, (CodePoint.ofChar (Nat.digitChar n)).decimalDigit? = some n := by
  decide

namespace Text

/-- A text of digits only. -/
def Digits (t : Text) : Prop :=
  ∀ c ∈ t, c.isAsciiDigit

instance (t : Text) : Decidable t.Digits :=
  inferInstanceAs (Decidable (∀ c ∈ t, c.isAsciiDigit))

theorem digits_append {a b : Text} : (a ++ b).Digits ↔ a.Digits ∧ b.Digits := by
  simp only [Digits, List.mem_append, or_imp, forall_and]

theorem digits_zeros (n : Nat) : (zeros n).Digits := by
  intro c mem
  obtain ⟨-, rfl⟩ := List.mem_replicate.mp mem
  decide

theorem digits_ofNat (n : Nat) : (ofNat n).Digits :=
  fun _ => isAsciiDigit_of_mem_ofNat

theorem digits_ofNatPadded (width n : Nat) : (ofNatPadded width n).Digits :=
  digits_append.mpr ⟨digits_zeros _, digits_ofNat n⟩

theorem Digits.decimal {t : Text} (digits : t.Digits) : ∀ c ∈ t, c.isDecimalDigit :=
  fun c mem => CodePoint.isDecimalDigit_of_isAsciiDigit (digits c mem)

theorem decimalValue_concat (t : Text) (c : CodePoint) :
    decimalValue (t ++ [c]) = 10 * decimalValue t + c.decimalDigit?.getD 0 := by
  simp [decimalValue]

/-- Digits in front are worth as many powers of ten more as digits follow. -/
theorem decimalValue_append (a b : Text) :
    decimalValue (a ++ b) = decimalValue a * 10 ^ b.length + decimalValue b := by
  induction b using List.reverseRecOn with
  | nil => simp [decimalValue]
  | append_singleton b c ih =>
    rw [← List.append_assoc, decimalValue_concat, decimalValue_concat, ih, List.length_append,
      List.length_singleton]
    ring

theorem decimalValue_zeros (n : Nat) : decimalValue (zeros n) = 0 := by
  induction n with
  | zero => rfl
  | succ n ih =>
    have last : zeros (n + 1) = zeros n ++ [CodePoint.ofChar '0'] := List.replicate_succ'
    rw [last, decimalValue_concat, ih]
    rfl

theorem decimalValue_zeros_append (n : Nat) (t : Text) :
    decimalValue (zeros n ++ t) = decimalValue t := by
  rw [decimalValue_append, decimalValue_zeros, Nat.zero_mul, Nat.zero_add]

theorem ofNat_of_lt {n : Nat} (single : n < 10) :
    ofNat n = [CodePoint.ofChar (Nat.digitChar n)] := by
  rw [ofNat, Nat.toDigits_of_lt_base single, List.map_singleton]

theorem ofNat_of_le {n : Nat} (several : 10 ≤ n) :
    ofNat n = ofNat (n / 10) ++ [CodePoint.ofChar (Nat.digitChar (n % 10))] := by
  rw [ofNat, Nat.toDigits_of_base_le (by decide) several, List.map_append, List.map_singleton]
  rfl

theorem decimalValue_ofNat (n : Nat) : decimalValue (ofNat n) = n := by
  induction n using Nat.strongRecOn with
  | ind n ih =>
    rcases Nat.lt_or_ge n 10 with single | several
    · rw [ofNat_of_lt single, decimalValue, List.foldl_cons, List.foldl_nil,
        decimalDigit?_digitChar n single, Option.getD_some]
      omega
    · rw [ofNat_of_le several, decimalValue_concat, ih (n / 10) (by omega),
        decimalDigit?_digitChar _ (by omega), Option.getD_some]
      omega

theorem decimalValue_ofNatPadded (width n : Nat) : decimalValue (ofNatPadded width n) = n := by
  rw [ofNatPadded, decimalValue_zeros_append, decimalValue_ofNat]

theorem length_ofNat (n : Nat) : (ofNat n).length = (Nat.toDigits 10 n).length :=
  List.length_map _

theorem ofNat_length_le_iff {n width : Nat} (positive : 0 < width) :
    (ofNat n).length ≤ width ↔ n < 10 ^ width := by
  rw [length_ofNat]
  exact Nat.length_toDigits_le_iff (by decide) positive

/-- A number other than zero does not begin with the digit zero. -/
theorem head?_ofNat_ne_zero {n : Nat} (positive : 0 < n) :
    (ofNat n).head? ≠ some (CodePoint.ofChar '0') := by
  induction n using Nat.strongRecOn with
  | ind n ih =>
    rcases Nat.lt_or_ge n 10 with single | several
    · rw [ofNat_of_lt single]
      have nonzero : ∀ n < 10, 0 < n →
          CodePoint.ofChar (Nat.digitChar n) ≠ CodePoint.ofChar '0' := by decide
      simpa using nonzero n single positive
    · obtain ⟨first, rest, cons⟩ := List.exists_cons_of_ne_nil (ofNat_ne_nil (n / 10))
      have lead := ih (n / 10) (by omega) (by omega)
      rw [cons] at lead
      rw [ofNat_of_le several, cons]
      exact lead

/-- The numeral of an integer without needless marks: a minus sign if the integer is negative, and
digits of which the first is zero only if it is the only one. -/
def Canonical (n : Int) (t : Text) : Prop :=
  ∃ digits : Text, t = digits.signed (decide (n < 0)) ∧ digits ≠ [] ∧ digits.Digits ∧
    (digits.head? = some (CodePoint.ofChar '0') → digits.length = 1) ∧
    decimalValue digits = n.natAbs

theorem ofInt_eq_signed (n : Int) : ofInt n = (ofNat n.natAbs).signed (decide (n < 0)) := by
  unfold ofInt signed
  split <;> simp_all

theorem canonical_ofInt (n : Int) : (ofInt n).Canonical n := by
  refine ⟨ofNat n.natAbs, ofInt_eq_signed n, ofNat_ne_nil _, digits_ofNat _, ?_,
    decimalValue_ofNat _⟩
  intro zero
  rcases Nat.eq_zero_or_pos n.natAbs with none | positive
  · rw [none]
    rfl
  · exact absurd zero (head?_ofNat_ne_zero positive)

/-- The sign of a numeral is seen from its first code point. -/
theorem signed_inj {a b : Text} {s s' : Bool} (digits : a.Digits) (digits' : b.Digits)
    (same : a.signed s = b.signed s') : s = s' ∧ a = b := by
  have minus : (CodePoint.ofChar '-').isAsciiDigit = false := by decide
  cases s <;> cases s'
  · exact ⟨rfl, same⟩
  · have first : CodePoint.ofChar '-' ∈ a := by
      rw [show a = CodePoint.ofChar '-' :: b from same]
      exact List.mem_cons_self
    simp [digits _ first] at minus
  · have first : CodePoint.ofChar '-' ∈ b := by
      rw [show b = CodePoint.ofChar '-' :: a from same.symm]
      exact List.mem_cons_self
    simp [digits' _ first] at minus
  · exact ⟨rfl, (List.cons.inj same).2⟩

theorem Canonical.unique {t : Text} {m n : Int} (first : t.Canonical m) (second : t.Canonical n) :
    m = n := by
  obtain ⟨digits, rfl, -, decimal, -, worth⟩ := first
  obtain ⟨digits', same, -, decimal', -, worth'⟩ := second
  obtain ⟨sign, rfl⟩ := signed_inj decimal decimal' same
  have negative : m < 0 ↔ n < 0 := decide_eq_decide.mp sign
  omega

end Text

end SqlTemplate
