import SqlTemplate.Format.Number
import SqlTemplate.Proofs.Lexing

/-!
# The alphabet of numbers

The text of a number consists of digits, letters, signs and points. So it needs no escaping: nothing
in it can begin or end a literal (`Text.Bare.not_isQuote`), and all of it is ASCII
(`Text.Bare.ascii`). No number is written as nothing (`Binary64.text_ne_nil`,
`Decimal.text_ne_nil`).
-/

namespace SqlTemplate

/-- A code point that numbers are written with. -/
def CodePoint.isBare (c : CodePoint) : Bool :=
  c.isAsciiDigit || c.isAsciiLetter || decide (c = CodePoint.ofChar '+') ||
    decide (c = CodePoint.ofChar '-') || decide (c = CodePoint.ofChar '.')

namespace Text

/-- A text in the alphabet of numbers. -/
def Bare (t : Text) : Prop :=
  ∀ c ∈ t, c.isBare

/-- A text of code points that every encoding can spell. -/
def Ascii (t : Text) : Prop :=
  ∀ c ∈ t, c.val < 0x80

instance (t : Text) : Decidable t.Bare :=
  inferInstanceAs (Decidable (∀ c ∈ t, c.isBare))

instance (t : Text) : Decidable t.Ascii :=
  inferInstanceAs (Decidable (∀ c ∈ t, c.val < 0x80))

theorem Bare.ascii {t : Text} (bare : t.Bare) : t.Ascii := by
  intro c mem
  have letter := bare c mem
  simp only [CodePoint.isBare, CodePoint.isAsciiDigit, CodePoint.isAsciiLetter, CodePoint.within,
    Bool.or_eq_true, Bool.and_eq_true, decide_eq_true_eq] at letter
  rcases letter with (((digit | letter) | rfl) | rfl) | rfl
  · omega
  · omega
  all_goals decide

theorem Bare.not_isQuote {t : Text} (bare : t.Bare) : ∀ c ∈ t, ¬ c.IsQuote := by
  rintro c mem (rfl | rfl) <;> exact absurd (bare _ mem) (by decide)

theorem bare_append {a b : Text} : (a ++ b).Bare ↔ a.Bare ∧ b.Bare := by
  simp only [Bare, List.mem_append, or_imp, forall_and]

theorem bare_cons {c : CodePoint} {t : Text} : Bare (c :: t) ↔ c.isBare ∧ t.Bare := by
  simp only [Bare, List.mem_cons, forall_eq_or_imp]

theorem isAsciiDigit_of_mem_ofNat {n : Nat} {c : CodePoint} (mem : c ∈ ofNat n) :
    c.isAsciiDigit := by
  obtain ⟨digit, among, rfl⟩ := List.mem_map.mp mem
  have kind := Nat.isDigit_of_mem_toDigits (by decide) (by decide) among
  obtain ⟨low, high⟩ := Char.isDigit_iff_toNat.mp kind
  exact Bool.and_eq_true_iff.mpr ⟨decide_eq_true low, decide_eq_true high⟩

theorem bare_ofNat (n : Nat) : (ofNat n).Bare := by
  intro c mem
  simp [CodePoint.isBare, isAsciiDigit_of_mem_ofNat mem]

theorem bare_zeros (n : Nat) : (zeros n).Bare := by
  intro c mem
  obtain ⟨-, rfl⟩ := List.mem_replicate.mp mem
  decide

theorem bare_ofNatPadded (width n : Nat) : (ofNatPadded width n).Bare :=
  bare_append.mpr ⟨bare_zeros _, bare_ofNat n⟩

theorem bare_ofInt (n : Int) : (ofInt n).Bare := by
  unfold ofInt
  split
  · exact bare_cons.mpr ⟨by decide, bare_ofNat _⟩
  · exact bare_ofNat _

theorem bare_signed {t : Text} (bare : t.Bare) (negative : Bool) : (t.signed negative).Bare := by
  cases negative with
  | false => exact bare
  | true => exact bare_cons.mpr ⟨by decide, bare⟩

theorem bare_ofIntSigned (width : Nat) (n : Int) : (ofIntSigned width n).Bare := by
  refine bare_cons.mpr ⟨?_, bare_ofNatPadded _ _⟩
  split <;> decide

theorem bare_pointed {digits : Text} (bare : digits.Bare) (place : Int) :
    (digits.pointed place).Bare := by
  unfold pointed
  split
  · exact bare_append.mpr ⟨bare_append.mpr ⟨by decide, bare_zeros _⟩, bare⟩
  · split
    · exact bare_append.mpr ⟨bare, bare_zeros _⟩
    · refine bare_append.mpr ⟨fun c mem => bare c (List.mem_of_mem_take mem), ?_⟩
      exact bare_cons.mpr ⟨by decide, fun c mem => bare c (List.mem_of_mem_drop mem)⟩

end Text

open Text

theorem Binary64.bare_text (x : Binary64) : x.text.Bare := by
  cases x with
  | nan => decide
  | infinity negative => exact bare_signed (by decide) negative
  | finite negative mantissa exponent =>
    cases mantissa with
    | zero => exact bare_signed (by decide) negative
    | succ mantissa =>
      refine bare_signed ?_ negative
      have digits := bare_ofNat (shortest (mantissa + 1) exponent).digits
      split
      · exact bare_append.mpr ⟨bare_pointed digits _,
          bare_cons.mpr ⟨by decide, bare_ofIntSigned _ _⟩⟩
      · split
        · exact bare_append.mpr ⟨bare_pointed digits _, by decide⟩
        · exact bare_pointed digits _

theorem Decimal.bare_text (d : Decimal) : d.text.Bare := by
  cases d with
  | finite negative coefficient exponent =>
    refine bare_signed ?_ negative
    have digits := bare_ofNat coefficient
    split
    · exact bare_pointed digits _
    · exact bare_append.mpr ⟨bare_pointed digits _,
        bare_cons.mpr ⟨by decide, bare_ofIntSigned _ _⟩⟩
  | infinity negative => exact bare_signed (by decide) negative
  | nan negative signaling payload =>
    refine bare_signed (bare_append.mpr ⟨?_, ?_⟩) negative
    · cases signaling <;> decide
    · split
      · decide
      · exact bare_ofNat payload

/-! ## Numbers take space -/

namespace Text

theorem ofNat_ne_nil (n : Nat) : ofNat n ≠ [] :=
  mt List.map_eq_nil_iff.mp Nat.toDigits_ne_nil

theorem ofInt_ne_nil (n : Int) : ofInt n ≠ [] := by
  unfold ofInt
  split
  · exact List.cons_ne_nil _ _
  · exact ofNat_ne_nil _

theorem signed_ne_nil {t : Text} (filled : t ≠ []) (negative : Bool) : t.signed negative ≠ [] := by
  cases negative with
  | false => exact filled
  | true => exact List.cons_ne_nil _ _

theorem pointed_ne_nil {digits : Text} (filled : digits ≠ []) (place : Int) :
    digits.pointed place ≠ [] := by
  unfold pointed
  split
  · exact List.append_ne_nil_of_left_ne_nil (List.cons_ne_nil _ _) _
  · split
    · exact List.append_ne_nil_of_left_ne_nil filled _
    · exact List.append_ne_nil_of_right_ne_nil _ (List.cons_ne_nil _ _)

end Text

theorem Binary64.text_ne_nil (x : Binary64) : x.text ≠ [] := by
  cases x with
  | nan => decide
  | infinity negative => exact signed_ne_nil (by decide) negative
  | finite negative mantissa exponent =>
    cases mantissa with
    | zero => exact signed_ne_nil (by decide) negative
    | succ mantissa =>
      have digits := pointed_ne_nil (ofNat_ne_nil (shortest (mantissa + 1) exponent).digits)
      refine signed_ne_nil ?_ negative
      split
      · exact List.append_ne_nil_of_left_ne_nil (digits _) _
      · split
        · exact List.append_ne_nil_of_left_ne_nil (digits _) _
        · exact digits _

theorem Decimal.text_ne_nil (d : Decimal) : d.text ≠ [] := by
  cases d with
  | finite negative coefficient exponent =>
    have digits := pointed_ne_nil (ofNat_ne_nil coefficient)
    refine signed_ne_nil ?_ negative
    split
    · exact digits _
    · exact List.append_ne_nil_of_left_ne_nil (digits _) _
  | infinity negative => exact signed_ne_nil (by decide) negative
  | nan negative signaling payload =>
    refine signed_ne_nil (List.append_ne_nil_of_left_ne_nil ?_ _) negative
    cases signaling <;> decide

/-- The least number with too many digits. -/
theorem Format.integerBound_eq : integerBound = Nat.pow 10 integerDigits := by
  delta integerBound
  generalize integerDigits = digits
  rfl

theorem Format.bare_nullText : nullText.Bare := by decide

theorem Format.bare_integerText {n : Int} {text : Text} (written : integerText n = .ok text) :
    text.Bare := by
  unfold integerText at written
  split at written
  · cases written
    exact bare_ofInt n
  · simp at written

theorem Format.integerText_ne_nil {n : Int} {text : Text} (written : integerText n = .ok text) :
    text ≠ [] := by
  unfold integerText at written
  split at written
  · cases written
    exact ofInt_ne_nil n
  · simp at written

end SqlTemplate
