import SqlTemplate.Proofs.LongestNumeral
import SqlTemplate.Proofs.Truncation

/-!
# Integers are read back

A text that begins with the numeral of an integer is read as this integer, unless what follows goes
on with the numeral: a digit, a point or an exponent (`Numeral.read?_ofInt`). So `?d` writes its own
output unchanged (`Format.integer_reread`).
-/

namespace SqlTemplate

namespace Numeral

/-- A text begins with an exponent: a mark, perhaps a sign, and a digit. -/
def BeginsExponent (t : Text) : Prop :=
  ∃ (mark : CodePoint) (sign : Sign) (digit : CodePoint) (rest : Text),
    (mark = 'e' ∨ mark = 'E') ∧ digit.isDecimalDigit ∧ t = mark :: (sign.text ++ digit :: rest)

/-- An exponent is read just where one begins. -/
theorem isSome_readExponent_iff {t : Text} : (readExponent t).1.isSome ↔ BeginsExponent t := by
  constructor
  · intro read
    cases t with
    | nil => nomatch read
    | cons c rest =>
      by_cases marked : c = 'e' ∨ c = 'E'
      · simp only [readExponent, marked, ↓reduceIte] at read
        cases tail : (Sign.read rest).2 with
        | nil => simp [tail] at read
        | cons digit others =>
          have decimal : digit.isDecimalDigit := by
            by_contra other
            simp [tail, other] at read
          refine ⟨c, (Sign.read rest).1, digit, others, marked, decimal, ?_⟩
          rw [← tail, Sign.text_read]
      · simp [readExponent, marked] at read
  · rintro ⟨mark, sign, digit, rest, marked, decimal, rfl⟩
    simp [readExponent, marked, Sign.read_digit sign decimal, decimal]

instance (t : Text) : Decidable (BeginsExponent t) :=
  decidable_of_iff _ isSome_readExponent_iff

/-- What can follow the digits of an integer without going on with them. -/
structure Ends (rest : Text) : Prop where
  digit : ∀ c ∈ rest.head?, c.isDecimalDigit = false
  point : rest.head? ≠ some (CodePoint.ofChar '.')
  exponent : ¬ BeginsExponent rest

theorem ends_nil : Ends [] :=
  ⟨nofun, nofun, by decide⟩

theorem takeWhile_of_ends {rest : Text} (ends : Ends rest) :
    rest.takeWhile CodePoint.isDecimalDigit = [] ∧
      rest.dropWhile CodePoint.isDecimalDigit = rest :=
  @Text.span_digits [] rest nofun ends.digit

theorem readFraction_of_ends {rest : Text} (ends : Ends rest) :
    readFraction rest = (none, rest) := by
  refine @readFraction_exact none nofun rest fun c head => ⟨ends.digit c head, ?_⟩
  rintro rfl
  exact ends.point head

theorem readExponent_of_ends {rest : Text} (ends : Ends rest) :
    readExponent rest = (none, rest) := by
  have whole := text_readExponent rest
  have unread : (readExponent rest).1 = none :=
    Option.not_isSome_iff_eq_none.mp (mt isSome_readExponent_iff.mp ends.exponent)
  rw [unread, Option.elim_none, List.nil_append] at whole
  exact Prod.ext unread whole

/-- The numeral that is written for an integer. -/
def ofInt (n : Int) : Numeral :=
  ⟨if n < 0 then .minus else .absent, Text.ofNat n.natAbs, none, none⟩

theorem sign_text_ofInt (n : Int) :
    (ofInt n).sign.text ++ Text.ofNat n.natAbs = Text.ofInt n := by
  unfold ofInt Text.ofInt
  split <;> rfl

theorem formed_ofInt (n : Int) : (ofInt n).Formed :=
  ⟨(Text.digits_ofNat n.natAbs).decimal, nofun, .inl (Text.ofNat_ne_nil n.natAbs), nofun⟩

theorem text_ofInt (n : Int) : (ofInt n).text = Text.ofInt n := by
  rw [← sign_text_ofInt]
  simp [text, ofInt]

/-- The numeral of an integer is read up to its end. -/
theorem read?_ofInt (n : Int) {rest : Text} (ends : Ends rest) :
    read? (Text.ofInt n ++ rest) = some (ofInt n, rest) := by
  have read := (formed_ofInt n).read?_whole rest
  obtain ⟨taken, dropped⟩ := takeWhile_of_ends ends
  simp only [taken, dropped, readFraction_of_ends ends, readExponent_of_ends ends,
    List.append_nil] at read
  rw [← text_ofInt]
  exact read

theorem leading?_ofInt (n : Int) {blanks rest : Text} (blank : ∀ c ∈ blanks, c.isBlank)
    (ends : Ends rest) : leading? (blanks ++ (Text.ofInt n ++ rest)) = some (ofInt n) := by
  obtain ⟨-, dropped⟩ := (formed_ofInt n).span_isBlank blank rest
  rw [text_ofInt] at dropped
  rw [leading?, dropped, read?_ofInt n ends, Option.map_some]

end Numeral

/-- The numeral of an integer up to the limit of digits is read as this integer. -/
theorem Reading.ofNumeral_ofInt {n : Int} (small : n.natAbs < 10 ^ integerDigits) :
    ofNumeral (.ofInt n) = .integer n := by
  have short : (Text.ofNat n.natAbs).length ≤ integerDigits :=
    (Text.ofNat_length_le_iff (by decide)).mpr small
  have worth : (Numeral.ofInt n).sign.apply (Numeral.ofInt n).coefficient = n := by
    simp only [Numeral.ofInt, Numeral.coefficient, Option.getD_none, List.append_nil,
      Text.decimalValue_ofNat]
    split
    · simp only [Sign.apply, ↓reduceIte]
      omega
    · simp only [Sign.apply, reduceCtorEq, ↓reduceIte]
      omega
  have integer : (Numeral.ofInt n).isInteger := by
    simp [Numeral.isInteger, Numeral.ofInt, short]
  rw [ofNumeral, if_pos integer, worth]

namespace Format

/-- An integer up to the limit of digits is written out. -/
theorem integer_int {n : Int} (small : n.natAbs < 10 ^ integerDigits) :
    integer (.int n) = .sql (Text.ofInt n) := by
  have filled : Value.int n ≠ .null := by simp
  have read : quantity? (.int n) = .ok (.integer n) := rfl
  have whole : truncated Decimal.conversionDigits (.integer n) = .ok n := rfl
  rw [integer, integerWithin, number_of_converted filled read whole, integerText_eq, if_pos small,
    ofTextOrMismatch]

/-- A text that begins with such an integer stands for it. -/
theorem integer_text {n : Int} (small : n.natAbs < 10 ^ integerDigits) {blanks rest : Text}
    (blank : ∀ c ∈ blanks, c.isBlank) (ends : Numeral.Ends rest) :
    integer (.text (blanks ++ (Text.ofInt n ++ rest))) = .sql (Text.ofInt n) := by
  rw [← integer_int small]
  rw [integer, integerWithin]
  refine number_congr (by simp) (by simp) ?_
  rw [quantity?_text (Numeral.leading?_ofInt n blank ends), Reading.ofNumeral_ofInt small]
  rfl

/-- What `?d` writes, other than null, is an integer up to the limit of digits. -/
theorem exists_integer {v : Value} (filled : v ≠ .null) {d : Dialect} {t : Text}
    (written : ((integer v).render d).result = .ok t) :
    ∃ n : Int, n.natAbs < 10 ^ integerDigits ∧ t = Text.ofInt n := by
  cases read : quantity? v with
  | error reason =>
    rw [integer, integerWithin, number_of_unread filled read, Draft.render_mismatch] at written
    cases written
  | ok quantity =>
    cases found : truncated Decimal.conversionDigits quantity with
    | error failure =>
      rw [integer, integerWithin, number_of_failed filled read found, Draft.render_fail] at written
      cases written
    | ok n =>
      rw [integer, integerWithin, number_of_converted filled read found, integerText_eq] at written
      split at written
      · next small =>
        rw [ofTextOrMismatch, Draft.render_sql] at written
        exact ⟨n, small, (Except.ok.inj written).symm⟩
      · cases written

/-- **What `?d` writes is read back**, whatever white space comes before it and whatever comes after
it that does not go on with the numeral: the integer is written again. In particular `?d` leaves
what it wrote itself unchanged. -/
theorem integer_reread (d : Dialect) :
    (∀ n : Int, n.natAbs < 10 ^ integerDigits →
      ((integer (.int n)).render d).result = .ok (Text.ofInt n) ∧
      ∀ blanks rest : Text, (∀ c ∈ blanks, c.isBlank) → Numeral.Ends rest →
        ((integer (.text (blanks ++ (Text.ofInt n ++ rest)))).render d).result =
          .ok (Text.ofInt n)) ∧
    ∀ v t, v ≠ .null → ((integer v).render d).result = .ok t →
      ((integer (.text t)).render d).result = .ok t := by
  refine ⟨fun n small => ⟨?_, fun blanks rest blank ends => ?_⟩, fun v t filled written => ?_⟩
  · rw [integer_int small, Draft.render_sql]
  · rw [integer_text small blank ends, Draft.render_sql]
  · obtain ⟨n, small, rfl⟩ := exists_integer filled written
    have again : integer (.text ([] ++ (Text.ofInt n ++ []))) = .sql (Text.ofInt n) :=
      integer_text small nofun Numeral.ends_nil
    rw [List.nil_append, List.append_nil] at again
    rw [again, Draft.render_sql]

/-- Neither the white space nor an exponent without a digit gets in the way. -/
theorem integer_reread_negative :
    let blanks : Text := "\t "
    let rest : Text := "e+ rows"
    Int.natAbs (-12) < 10 ^ integerDigits ∧ (∀ c ∈ blanks, c.isBlank) ∧
      Numeral.Ends rest ∧
      ((integer (.text (blanks ++ (Text.ofInt (-12) ++ rest)))).render .default).result =
        .ok (Text.ofString "-12") := by
  intro blanks rest
  have small : Int.natAbs (-12) < 10 ^ integerDigits := calc
    Int.natAbs (-12) < 10 ^ 2 := by decide
    _ ≤ 10 ^ integerDigits := Nat.pow_le_pow_right (by decide) (by decide)
  have blank : ∀ c ∈ blanks, c.isBlank := by decide
  have ends : Numeral.Ends rest := ⟨by decide, by decide, by decide⟩
  have written := ((integer_reread .default).1 (-12) small).2 blanks rest blank ends
  exact ⟨small, blank, ends, written⟩

end Format

end SqlTemplate
