import SqlTemplate.Proofs.LongestNumeral
import SqlTemplate.Proofs.TextNumbers

/-!
# Numbers are read from the longest numeral

A numeral without its white space is always a whole number text: an integer, if it is a sign and
digits within the limit (`Numeral.Formed.integer?_text`), and else a float
(`Numeral.Formed.ofText?_text`). So a number is read from the longest numeral that a text begins
with, and reading never fails (`Reading.ofText_longest`).
-/

namespace SqlTemplate

/-- A whole text as an integer: a sign and digits up to the limit, with white space around it and
underscores between digits. Leading zeros count. -/
def Text.integer? (t : Text) : Option Int :=
  let (sign, digits) := Sign.read (Text.withoutSeparators (t.trim CodePoint.isBlank))
  if digits ≠ [] ∧ digits.all CodePoint.isDecimalDigit ∧ digits.length ≤ integerDigits then
    some (sign.apply (Text.decimalValue digits))
  else none

/-- A sign and at least one digit, but no more than the limit. -/
def Text.SpellsInteger (t : Text) : Prop :=
  ∃ (sign : Sign) (digits : Text), digits ≠ [] ∧ digits.length ≤ integerDigits ∧
    (∀ c ∈ digits, c.isDecimalDigit) ∧ t = sign.text ++ digits

theorem CodePoint.asciiLower_of_isDecimalDigit {c : CodePoint} (digit : c.isDecimalDigit) :
    c.asciiLower = c := by
  have apart : ∀ start ∈ decimalZeros, start + 9 < 0x41 ∨ 0x5A < start := by decide
  obtain ⟨start, mem, low, high⟩ := exists_decimalZero digit
  have gap := apart start mem
  rw [asciiLower, dif_neg (by omega)]

theorem Text.dropWhile_of_filled {t : Text} (filled : ∀ c ∈ t, c.isBlank = false) :
    t.dropWhile CodePoint.isBlank = t := by
  cases t with
  | nil => rfl
  | cons c t => simp [filled c List.mem_cons_self]

/-- Only the white space in front is trimmed from a text that has none in it. -/
theorem Text.trim_append {blanks t : Text} (blank : ∀ c ∈ blanks, c.isBlank)
    (filled : ∀ c ∈ t, c.isBlank = false) : (blanks ++ t).trim CodePoint.isBlank = t := by
  have reversed : ∀ c ∈ t.reverse, c.isBlank = false :=
    fun c mem => filled c (List.mem_reverse.mp mem)
  rw [trim, List.dropWhile_append_of_pos blank, dropWhile_of_filled filled, dropEndWhile,
    dropWhile_of_filled reversed, List.reverse_reverse]

theorem Text.withoutSeparators_of_not_mem {t : Text} (without : CodePoint.ofChar '_' ∉ t) :
    withoutSeparators t = t := by
  fun_induction withoutSeparators t with
  | case1 c u d rest separated ih => simp [separated.1] at without
  | case2 c u d rest _ ih => rw [ih fun mem => without (List.mem_cons_of_mem c mem)]
  | case3 => rfl

namespace Numeral

theorem Formed.not_separated {n : Numeral} (formed : n.Formed) : CodePoint.ofChar '_' ∉ n.text := by
  intro mem
  rcases formed.mem_text mem with digit | mark
  · exact absurd digit (by decide)
  · exact absurd mark (by decide)

/-- Nothing is taken out of a numeral before it is read as a whole. -/
theorem Formed.prepared {n : Numeral} (formed : n.Formed) :
    Text.withoutSeparators (n.text.trim CodePoint.isBlank) = n.text := by
  have trimmed : Text.trim CodePoint.isBlank ([] ++ n.text) = n.text :=
    Text.trim_append nofun fun _ => formed.not_isBlank
  rw [List.nil_append] at trimmed
  rw [trimmed, Text.withoutSeparators_of_not_mem formed.not_separated]

/-- Which numerals are integers can be told from how they are written. -/
theorem Formed.isInteger_iff {n : Numeral} (formed : n.Formed) :
    n.isInteger ↔ n.text.SpellsInteger := by
  constructor
  · intro plain
    obtain ⟨sign, whole, fraction, exponent⟩ := n
    obtain ⟨rfl, rfl, short⟩ := isInteger_eq_true_iff.mp plain
    exact ⟨sign, whole, by simpa using formed.filled, short, formed.whole, by simp [text]⟩
  · rintro ⟨sign, digits, filled, short, decimal, written⟩
    have formed' : Formed ⟨sign, digits, none, none⟩ :=
      ⟨decimal, by simp, .inl filled, by simp⟩
    obtain rfl := formed.text_inj formed' (written.trans (by simp [text]))
    exact isInteger_eq_true_iff.mpr ⟨rfl, rfl, short⟩

/-- A numeral is taken as an integer exactly if it is one. -/
theorem Formed.integer?_text {n : Numeral} (formed : n.Formed) :
    Text.integer? n.text = if n.isInteger then some (n.sign.apply n.coefficient) else none := by
  simp only [Text.integer?, formed.prepared, formed.read_sign_text]
  by_cases plain : n.isInteger
  · obtain ⟨sign, whole, fraction, exponent⟩ := n
    obtain ⟨rfl, rfl, short⟩ := isInteger_eq_true_iff.mp plain
    have filled : whole ≠ [] := by simpa using formed.filled
    have digits : whole.all CodePoint.isDecimalDigit := List.all_eq_true.mpr formed.whole
    simp [unsignedText, fractionText, filled, digits, short, isInteger, coefficient]
  · rw [if_neg plain, if_neg]
    rintro ⟨filled, digits, short⟩
    have decimal : ∀ c ∈ n.unsignedText, c.isDecimalDigit := List.all_eq_true.mp digits
    exact plain (formed.isInteger_iff.mpr ⟨n.sign, _, filled, short, decimal, n.text_eq⟩)

/-- A numeral is none of the words for numbers that are not finite. -/
theorem Formed.asciiLower_ne {n : Numeral} (formed : n.Formed) {letter : CodePoint}
    (other : ¬ (letter.isDecimalDigit ∨ letter = CodePoint.ofChar '.')) (word : Text) :
    Text.asciiLower n.unsignedText ≠ letter :: word := by
  obtain ⟨first, rest, written, starts⟩ := formed.starts
  have lower : first.asciiLower = first := by
    rcases starts with digit | rfl
    · exact CodePoint.asciiLower_of_isDecimalDigit digit
    · rfl
  intro same
  rw [written, Text.asciiLower, List.map_cons, lower] at same
  exact other ((List.cons.inj same).1 ▸ starts)

/-- A numeral is taken as a float. -/
theorem Formed.ofText?_text {n : Numeral} (formed : n.Formed) :
    Binary64.ofText? n.text = some n.toBinary64 := by
  have infinite (word : Text) : Text.asciiLower n.unsignedText ≠ CodePoint.ofChar 'i' :: word :=
    formed.asciiLower_ne (by decide) word
  have nan : Text.asciiLower n.unsignedText ≠ Text.ofString "nan" :=
    formed.asciiLower_ne (by decide) _
  have finite : ¬ (Text.asciiLower n.unsignedText = Text.ofString "inf" ∨
      Text.asciiLower n.unsignedText = Text.ofString "infinity") :=
    not_or.mpr ⟨infinite _, infinite _⟩
  simp only [Binary64.ofText?, formed.prepared, formed.read_sign_text, formed.read?_text, finite,
    nan, ↓reduceIte]

end Numeral

open Numeral (Spells Longest)

namespace Reading

/-- **A number is read from the longest numeral that a text begins with**, behind any white space,
and zero is read where it begins with none. The numeral is read exactly as an integer if it is a
sign and digits within the limit; every other numeral is no integer but a float. -/
theorem ofText_longest (t : Text) :
    (∀ p n, p <+: t → ¬ Spells p n) ∧ ofText t = .integer 0 ∨
    ∃ p n, Longest t p n ∧ (∀ q m, Longest t q m → q = p ∧ m = n) ∧
      p.trim CodePoint.isBlank = n.text ∧
      (n.text.SpellsInteger → ∃ k : Int, n.value = k ∧
        Text.integer? n.text = some k ∧ ofText t = .integer k) ∧
      (¬ n.text.SpellsInteger → Text.integer? n.text = none ∧
        ∃ x, Binary64.Rounds n.value x ∧ Binary64.ofText? n.text = some x ∧
          ofText t = .float x) := by
  cases leads : Numeral.leading? t with
  | none =>
    refine .inl ⟨Numeral.leading?_eq_none_iff.mp leads, ?_⟩
    rw [ofText, leads, Option.elim_none]
  | some n =>
    have longest := Numeral.longest_of_leading? leads
    have formed := longest.spells.1
    have read : ofText t = ofNumeral n := by rw [ofText, leads, Option.elim_some]
    have trimmed :
        Text.trim CodePoint.isBlank (t.takeWhile CodePoint.isBlank ++ n.text) = n.text :=
      Text.trim_append (fun _ mem => List.mem_takeWhile_imp mem) fun _ => formed.not_isBlank
    refine .inr ⟨_, n, longest, fun q m longest' => longest'.unique longest, trimmed, ?_, ?_⟩
    · intro integer
      have plain := formed.isInteger_iff.mpr integer
      refine ⟨n.sign.apply n.coefficient, Numeral.value_of_isInteger plain, ?_, ?_⟩
      · rw [formed.integer?_text, if_pos plain]
      · rw [read, ofNumeral, if_pos plain]
    · intro other
      have inexact := mt formed.isInteger_iff.mp other
      refine ⟨?_, n.toBinary64, n.rounds_toBinary64, formed.ofText?_text, ?_⟩
      · rw [formed.integer?_text, if_neg inexact]
      · rw [read, ofNumeral, if_neg inexact]

/-- The mark of an exponent that has no digits is no part of the numeral. -/
example : ofText " +12e+ rows" = .integer 12 := by
  decide +kernel

end Reading

end SqlTemplate
