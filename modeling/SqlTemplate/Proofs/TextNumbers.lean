import SqlTemplate.Proofs.NearestFloat
import SqlTemplate.Proofs.Truncation

/-!
# Numbers read from texts

A text stands for the number that its numeral denotes. `?f` rounds this number once, and so writes
what it writes for an integer or a decimal of the same value (`Format.float_of_denotes`). `?d` reads
a sign and digits exactly, and rounds every other numeral to a float before it is cut off
(`Format.integer_of_text`).
-/

namespace SqlTemplate

open Binary64 (Rounds overflow ofRat)

theorem Numeral.rounds_toBinary64 (n : Numeral) : Rounds n.value n.toBinary64 := by
  rw [toBinary64, Binary64.ofScientific_eq, ← magnitude_eq]
  exact Binary64.rounds_ofMagnitude n.magnitude_nonneg _

theorem Decimal.ofScientific_eq_ofRat {negative : Bool} {coefficient : Nat} {exponent : Int}
    (nonzero : withSign negative (coefficient * 10 ^ exponent) ≠ 0) :
    Binary64.ofScientific negative coefficient exponent =
      ofRat (withSign negative (coefficient * 10 ^ exponent)) := by
  have positive : (0 : Rat) < coefficient * 10 ^ exponent :=
    lt_of_le_of_ne (by positivity) (Ne.symm (mt withSign_eq_zero_iff.mpr nonzero))
  rw [Binary64.ofScientific_eq, Binary64.ofMagnitude_eq_ofRat positive]

theorem Numeral.toBinary64_eq_ofRat {n : Numeral} (nonzero : n.value ≠ 0) :
    n.toBinary64 = ofRat n.value := by
  rw [value, magnitude_eq] at nonzero ⊢
  exact Decimal.ofScientific_eq_ofRat nonzero

/-- The values that are a number: an integer, a decimal, and a text that begins with one. -/
inductive Value.Denotes (x : Rat) : Value → Prop
  | int {n : Int} : (n : Rat) = x → Denotes x (.int n)
  | decimal {d : Decimal} : d.value? = some x → Denotes x (.decimal d)
  | text {t : Text} {n : Numeral} : Numeral.leading? t = some n → n.value = x → Denotes x (.text t)

theorem Value.Denotes.ne_null {x : Rat} {v : Value} (denotes : v.Denotes x) : v ≠ .null := by
  rintro rfl
  nomatch denotes

namespace Format

theorem nearestFloat_integer (n : Int) :
    nearestFloat (.integer n) =
      if (ofRat n).isFinite then .ok (ofRat n)
      else .error (.query (.typeMismatch .float (.tooLargeForFloat (Value.int n).typeName))) := by
  rw [nearestFloat, Binary64.ofInt_eq]

/-- Whatever spells a number other than zero is converted to the number nearest to it, or is refused
where that is infinite. -/
theorem nearestFloat_of_denotes {x : Rat} (nonzero : x ≠ 0) {v : Value} (denotes : v.Denotes x) :
    ∃ quantity, quantity? v = .ok quantity ∧
      (nearestFloat quantity = .ok (ofRat x) ∨ (ofRat x).isFinite = false ∧
        ∃ reason, nearestFloat quantity = .error (.query (.typeMismatch .float reason))) := by
  have integer (n : Int) (same : (n : Rat) = x) :
      nearestFloat (.integer n) = .ok (ofRat x) ∨ (ofRat x).isFinite = false ∧
        ∃ reason, nearestFloat (.integer n) = .error (.query (.typeMismatch .float reason)) := by
    rw [nearestFloat_integer, same]
    cases (ofRat x).isFinite with
    | true => exact .inl rfl
    | false => exact .inr ⟨rfl, _, rfl⟩
  cases denotes with
  | int same => exact ⟨_, rfl, integer _ same⟩
  | @decimal d worth =>
    cases d with
    | finite negative coefficient exponent =>
      obtain rfl := Option.some.inj worth
      refine ⟨_, rfl, .inl ?_⟩
      exact congrArg Except.ok (Decimal.ofScientific_eq_ofRat nonzero)
    | infinity | nan => nomatch worth
  | @text t n leads worth =>
    refine ⟨_, quantity?_text leads, ?_⟩
    by_cases plain : n.isInteger
    · rw [Reading.ofNumeral, if_pos plain]
      exact integer _ ((Numeral.value_of_isInteger plain).symm.trans worth)
    · subst worth
      rw [Reading.ofNumeral, if_neg plain]
      exact .inl (congrArg Except.ok (Numeral.toBinary64_eq_ofRat nonzero))

/-- `?f` writes the number nearest to what a value denotes, unless that is infinite. -/
theorem float_eq_of_denotes {x : Rat} (nonzero : x ≠ 0) {v : Value} (denotes : v.Denotes x) :
    ((ofRat x).isFinite = true ∧ float v = .sql (ofRat x).text) ∨
      (ofRat x).isFinite = false ∧ ∃ reason, float v = .mismatch .float reason := by
  obtain ⟨quantity, read, nearest⟩ := nearestFloat_of_denotes nonzero denotes
  rw [float]
  rcases nearest with found | ⟨infinite, reason, refused⟩
  · rw [number_of_converted denotes.ne_null read found, finiteText]
    cases finite : (ofRat x).isFinite with
    | true => exact .inl ⟨rfl, rfl⟩
    | false => exact .inr ⟨rfl, _, rfl⟩
  · rw [number_of_failed denotes.ne_null read refused]
    exact .inr ⟨infinite, reason, rfl⟩

/-- **The float of a number does not depend on how the number is given**, as an integer, as a
decimal or as a text that begins with it: the nearest float is written, and from
`2 ^ 1024 - 2 ^ 970` on each of them is refused. -/
theorem float_of_denotes {x : Rat} (nonzero : x ≠ 0) (d : Dialect) :
    (|x| < overflow → ∃ y, Rounds x y ∧ ∀ v : Value, v.Denotes x →
      ((float v).render d).result = .ok y.text) ∧
    (overflow ≤ |x| → ∀ v : Value, v.Denotes x →
      ∃ reason, ((float v).render d).result = .error (.query (.typeMismatch .float reason))) := by
  have rounds := Binary64.rounds_ofRat x
  constructor
  · intro less
    refine ⟨ofRat x, rounds, fun v denotes => ?_⟩
    rcases float_eq_of_denotes nonzero denotes with ⟨-, drafted⟩ | ⟨infinite, -⟩
    · rw [drafted, Draft.render_sql]
    · simp [rounds.isFinite_iff.mpr less] at infinite
  · intro reached v denotes
    rcases float_eq_of_denotes nonzero denotes with ⟨finite, -⟩ | ⟨-, reason, drafted⟩
    · exact absurd (rounds.isFinite_iff.mp finite) (not_lt.mpr reached)
    · exact ⟨reason, by rw [drafted, Draft.render_mismatch]⟩

/-- An integer between two floats is written alike however it is given. -/
theorem float_of_denotes_tie :
    let x : Rat := 9007199254740993
    x ≠ 0 ∧ |x| < overflow ∧ Value.Denotes x (.int 9007199254740993) ∧
      Value.Denotes x (.text " 9007199254740993.0 rows") ∧
      ∃ text : Text, ((float (.int 9007199254740993)).render .default).result = .ok text ∧
        ((float (.text " 9007199254740993.0 rows")).render .default).result = .ok text := by
  intro x
  have nonzero : x ≠ 0 := by decide
  have less : |x| < overflow := by
    have power : |x| < 2 ^ (54 : Int) := by decide +kernel
    exact power.trans_le (Binary64.zpow_le_overflow (by decide))
  have integer : Value.Denotes x (.int 9007199254740993) := .int rfl
  have read : Value.Denotes x (.text " 9007199254740993.0 rows") :=
    .text (n := ⟨.absent, "9007199254740993", some "0", none⟩) (by decide +kernel)
      (by decide +kernel)
  obtain ⟨y, -, written⟩ := (float_of_denotes nonzero .default).1 less
  exact ⟨nonzero, less, integer, read, y.text, written _ integer, written _ read⟩

/-! ## Integer parts of texts -/

variable {memory : Nat}

theorem integer_text_of_isInteger {t : Text} {n : Numeral} (leads : Numeral.leading? t = some n)
    (plain : n.isInteger) (d : Dialect) :
    WritesInteger .integer (towardZero n.value)
      ((integerWithin memory (.text t)).render d).result := by
  have read := quantity?_text leads
  rw [Reading.ofNumeral, if_pos plain] at read
  have worth := congrArg some (Numeral.value_of_isInteger plain).symm
  exact writes_integer memory (v := .text t) nofun read worth nofun d

theorem integer_text_of_float {t : Text} {n : Numeral} (leads : Numeral.leading? t = some n)
    (inexact : ¬ n.isInteger) :
    integerWithin memory (.text t) = integerWithin memory (.float n.toBinary64) := by
  refine number_congr nofun nofun ?_
  rw [quantity?_text leads, Reading.ofNumeral, if_neg inexact]
  rfl

/-- A text never stands for a number that cannot be converted. -/
theorem integer_text_ne_fault {t : Text} {d : Dialect} {cause : Fault} :
    ((integerWithin memory (.text t)).render d).result ≠ .error (.fault cause) := by
  have drafts := draftsNumber_integerWithin memory (.text t)
  generalize integerWithin memory (.text t) = draft at drafts
  cases drafts with
  | bare | mismatch => simp
  | fault faulty => nomatch faulty

/-- An infinite float has no integer part. -/
theorem integer_infinity (memory : Nat) (negative : Bool) (d : Dialect) :
    ∃ reason, ((integerWithin memory (.float (.infinity negative))).render d).result =
      .error (.query (.typeMismatch .integer reason)) :=
  ⟨_, rfl⟩

/-- A number of more digits than the limit is beyond the floats. -/
theorem overflow_le_of_digits {x : Rat} (long : 10 ^ integerDigits ≤ (towardZero x).natAbs) :
    overflow ≤ |x| := by
  have size : ((10 ^ integerDigits : Nat) : Rat) ≤ |x| :=
    not_lt.mp (mt natAbs_towardZero_lt_iff.mpr (Nat.not_lt.mpr long))
  calc overflow ≤ (10 : Rat) ^ (400 : Int) := Binary64.overflow_le_ten_zpow
    _ ≤ 10 ^ (integerDigits : Int) := zpow_le_zpow_right₀ (by norm_num) (by decide)
    _ ≤ |x| := by
      rw [zpow_natCast]
      exact_mod_cast size

/-- The integer part that is written for a float is that of a number just if the number rounds to
a float with the same integer part, or is too large for both. -/
theorem writes_rounded_iff {x : Rat} {y : Binary64} (rounds : Rounds x y) (d : Dialect) :
    WritesInteger .integer (towardZero x) ((integerWithin memory (.float y)).render d).result ↔
      10 ^ integerDigits ≤ (towardZero x).natAbs ∨
        ∃ z, y.value? = some z ∧ towardZero z = towardZero x := by
  cases rounds with
  | infinity =>
    obtain ⟨reason, refused⟩ := integer_infinity memory (decide (x < 0)) d
    rw [refused]
    constructor
    · intro writes
      cases writes with
      | tooLarge _ long => exact .inl long
    · rintro (long | ⟨z, known, -⟩)
      · exact .tooLarge reason long
      · nomatch known
  | @finite negative mantissa exponent less _ _ _ _ =>
    have own := writes_integer memory (v := .float (.finite negative mantissa exponent)) nofun rfl
      rfl nofun d
    constructor
    · intro writes
      generalize ((integerWithin memory (.float (.finite negative mantissa exponent))).render
        d).result = result at own writes
      cases writes with
      | tooLarge _ long => exact .inl long
      | numeral _ canonical =>
        cases own with
        | numeral _ canonical' => exact .inr ⟨_, rfl, canonical'.unique canonical⟩
    · rintro (long | ⟨z, known, same⟩)
      · exact absurd less (not_lt.mpr (overflow_le_of_digits long))
      · obtain rfl := Option.some.inj known
        rwa [same] at own

/-- **The integer part of a number that a text begins with.** A sign and digits, up to the limit of
digits, are read exactly. Every other numeral is rounded to a float first, so that `?d` writes what
it writes for a decimal of this value just if the float has the same integer part or both have too
many digits. An integer of up to `2 ^ 53` is a float and comes out exactly in any spelling. The
decimal has to be one whose integer part can be formed; else it ends in a fault, which no text
does. -/
theorem integer_of_text {t : Text} {n : Numeral} (leads : Numeral.leading? t = some n)
    (memory : Nat) (d : Dialect) :
    let written (v : Value) : Except Failure Text := ((integerWithin memory v).render d).result
    let agrees := WritesInteger .integer (towardZero n.value) (written (.text t))
    (|n.value| < 10 ^ Decimal.formableDigits memory →
      WritesInteger .integer (towardZero n.value) (written (.decimal n.toDecimal))) ∧
    (10 ^ Decimal.formableDigits memory ≤ |n.value| →
      written (.decimal n.toDecimal) = .error (.fault .outOfMemory)) ∧
    (∀ cause, written (.text t) ≠ .error (.fault cause)) ∧
    (n.isInteger → agrees) ∧
    (¬ n.isInteger → ∃ y, Rounds n.value y ∧ written (.text t) = written (.float y) ∧
      (agrees ↔ 10 ^ integerDigits ≤ (towardZero n.value).natAbs ∨
        ∃ z, y.value? = some z ∧ towardZero z = towardZero n.value)) ∧
    ∀ k : Int, n.value = k → k.natAbs ≤ 2 ^ 53 → agrees := by
  intro written agrees
  have rounded (inexact : ¬ n.isInteger) : written (.text t) = written (.float n.toBinary64) := by
    simp only [written, integer_text_of_float leads inexact]
  refine ⟨?_, ?_, ?_, fun plain => integer_text_of_isInteger leads plain d, ?_, ?_⟩
  · intro formable
    exact writes_integer memory (v := .decimal n.toDecimal) nofun rfl n.value?_toDecimal
      (fun _ _ => formable) d
  · intro long
    simp only [written, integer_outOfMemory n.value?_toDecimal long, Draft.render_fail]
  · intro cause
    exact integer_text_ne_fault
  · intro inexact
    refine ⟨n.toBinary64, n.rounds_toBinary64, rounded inexact, ?_⟩
    simp only [agrees, rounded inexact]
    exact writes_rounded_iff n.rounds_toBinary64 d
  · intro k same small
    by_cases plain : n.isInteger
    · exact integer_text_of_isInteger leads plain d
    · have rounds := n.rounds_toBinary64
      have known : n.toBinary64.value? = some n.value := by
        rw [same] at rounds ⊢
        exact rounds.value?_intCast small
      simp only [agrees, rounded plain]
      exact (writes_rounded_iff rounds d).mpr (.inr ⟨_, known, rfl⟩)

/-- The tie between two floats goes to the smaller one for a text, and not for a decimal. -/
theorem integer_of_text_tie :
    let t : Text := "9007199254740993.0 rows"
    let n : Numeral := ⟨.absent, "9007199254740993", some "0", none⟩
    Numeral.leading? t = some n ∧ ¬ n.isInteger ∧ |n.value| < 10 ^ Decimal.formableDigits 16 ∧
      WritesInteger .integer 9007199254740993
        ((integerWithin 16 (.decimal n.toDecimal)).render .default).result ∧
      ∃ y, Rounds n.value y ∧ ((integerWithin 16 (.text t)).render .default).result =
        ((integerWithin 16 (.float y)).render .default).result := by
  intro t n
  have leads : Numeral.leading? t = some n := by decide +kernel
  have inexact : ¬ n.isInteger := by decide
  have formable : |n.value| < 10 ^ Decimal.formableDigits 16 := by decide +kernel
  have whole : towardZero n.value = 9007199254740993 := by decide +kernel
  obtain ⟨decimal, -, -, -, rounded, -⟩ := integer_of_text leads 16 .default
  obtain ⟨y, rounds, written, -⟩ := rounded inexact
  exact ⟨leads, inexact, formable, whole ▸ decimal formable, y, rounds, written⟩

/-- A fraction just below one is rounded up to one before it is cut off, as a text; as a decimal it
is not. -/
theorem integer_text_rounds_up :
    let t : Text := "0.99999999999999999"
    let n : Numeral := ⟨.absent, "0", some "99999999999999999", none⟩
    Numeral.leading? t = some n ∧ n.value = 99999999999999999 / 100000000000000000 ∧
      ((integer (.decimal n.toDecimal)).render .default).result = .ok (Text.ofString "0") ∧
      ((integer (.text t)).render .default).result = .ok (Text.ofString "1") ∧
      ¬ WritesInteger .integer (towardZero n.value)
        ((integer (.text t)).render .default).result := by
  intro t n
  have written : ((integer (.text t)).render .default).result = .ok (Text.ofString "1") := by
    decide +kernel
  have whole : towardZero n.value = 0 := by decide +kernel
  refine ⟨by decide +kernel, by decide +kernel, by decide +kernel, written, fun writes => ?_⟩
  rw [written, whole] at writes
  cases writes with
  | numeral _ canonical => exact absurd (canonical.unique (Text.canonical_ofInt 1)) (by decide)

end Format

end SqlTemplate
