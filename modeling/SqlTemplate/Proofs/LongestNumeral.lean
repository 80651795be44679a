import SqlTemplate.Number.Numeral
import Mathlib.Data.List.TakeWhile

/-!
# The longest numeral

A numeral is read part by part: its sign, its digits, its fraction and its exponent, each as far as
it goes. None of the parts can take away what a longer numeral would need, so the reader goes on at
least to the end of every numeral that a text begins with (`Numeral.Formed.exists_read?`). Hence
the numeral that is found is the longest one, and one is found if there is any
(`Numeral.longest_of_leading?`, `Numeral.leading?_eq_none_iff`).
-/

namespace SqlTemplate

theorem CodePoint.exists_decimalZero {c : CodePoint} (digit : c.isDecimalDigit) :
    ∃ start ∈ decimalZeros, start ≤ c.val ∧ c.val ≤ start + 9 := by
  rw [isDecimalDigit, decimalDigit?, Option.isSome_map, Option.isSome_iff_exists] at digit
  obtain ⟨start, found⟩ := digit
  have within := List.find?_some found
  simp only [CodePoint.within, Bool.and_eq_true, decide_eq_true_eq] at within
  exact ⟨start, List.mem_of_find?_eq_some found, within⟩

theorem CodePoint.not_isBlank_of_isDecimalDigit {c : CodePoint} (digit : c.isDecimalDigit) :
    c.isBlank = false := by
  have apart : ∀ start ∈ decimalZeros, 0x20 < start ∧ start + 9 < 0x85 ∨
      0xA0 < start ∧ start + 9 < 0x1680 ∨ 0x1680 < start ∧ start + 9 < 0x2000 ∨
      0x205F < start ∧ start + 9 < 0x3000 ∨ 0x3000 < start := by
    decide
  obtain ⟨start, mem, low, high⟩ := exists_decimalZero digit
  have gap := apart start mem
  simp only [isBlank, isWhiteSpace, within, Bool.or_eq_false_iff, Bool.and_eq_false_iff,
    decide_eq_false_iff_not, beq_eq_false_iff_ne]
  omega

/-- The sign in front of what is no sign is read. -/
theorem Sign.read_append (sign : Sign) {body : Text}
    (unsigned : ∀ c ∈ body.head?, c ≠ CodePoint.ofChar '+' ∧ c ≠ CodePoint.ofChar '-') :
    read (sign.text ++ body) = (sign, body) := by
  cases sign with
  | absent =>
    cases body with
    | nil => rfl
    | cons c rest => simp [text, read, unsigned c rfl]
  | plus | minus => rfl

theorem CodePoint.unsigned_of_isDecimalDigit {c : CodePoint} (digit : c.isDecimalDigit) :
    c ≠ ofChar '+' ∧ c ≠ ofChar '-' := by
  constructor <;> rintro rfl <;> exact absurd digit (by decide)

theorem Sign.read_digit (sign : Sign) {c : CodePoint} (digit : c.isDecimalDigit) (rest : Text) :
    read (sign.text ++ c :: rest) = (sign, c :: rest) := by
  refine read_append sign ?_
  rintro c ⟨⟩
  exact CodePoint.unsigned_of_isDecimalDigit digit

/-- Digits are taken up to the first code point that is none. -/
theorem Text.span_digits {digits tail : Text} (decimal : ∀ c ∈ digits, c.isDecimalDigit)
    (ends : ∀ c ∈ tail.head?, c.isDecimalDigit = false) :
    (digits ++ tail).takeWhile CodePoint.isDecimalDigit = digits ∧
      (digits ++ tail).dropWhile CodePoint.isDecimalDigit = tail := by
  rw [List.takeWhile_append_of_pos decimal, List.dropWhile_append_of_pos decimal]
  cases tail with
  | nil => exact ⟨List.append_nil _, rfl⟩
  | cons c tail => simp [ends c rfl]

theorem Text.isDecimalDigit_of_mem_takeWhile (t : Text) :
    ∀ c ∈ t.takeWhile CodePoint.isDecimalDigit, c.isDecimalDigit :=
  fun _ mem => List.mem_takeWhile_imp mem

/-- An exponent is marked by `e` or `E` and has digits. -/
structure Exponent.Formed (e : Exponent) : Prop where
  mark : e.mark = 'e' ∨ e.mark = 'E'
  filled : e.digits ≠ []
  digits : ∀ c ∈ e.digits, c.isDecimalDigit

namespace Numeral

/-- What a numeral is made of: digits of any system, at least one of them before the exponent. -/
structure Formed (n : Numeral) : Prop where
  whole : ∀ c ∈ n.whole, c.isDecimalDigit
  fraction : ∀ f ∈ n.fraction, ∀ c ∈ f, c.isDecimalDigit
  filled : n.whole ≠ [] ∨ n.fraction.getD [] ≠ []
  exponent : ∀ e ∈ n.exponent, e.Formed

/-- The point and the digits behind it, if there is a point. -/
def fractionText (fraction : Option Text) : Text :=
  fraction.elim [] (CodePoint.ofChar '.' :: ·)

/-- A numeral without its sign. -/
def unsignedText (n : Numeral) : Text :=
  n.whole ++ (fractionText n.fraction ++ n.exponent.elim [] Exponent.text)

theorem text_eq (n : Numeral) : n.text = n.sign.text ++ n.unsignedText := by
  simp [text, unsignedText, fractionText]

/-! ## What a numeral is written with -/

/-- The code points of a numeral that are not digits. -/
def marks : Text :=
  "+-.eE"

theorem Formed.mem_text {n : Numeral} (formed : n.Formed) {c : CodePoint} (mem : c ∈ n.text) :
    c.isDecimalDigit ∨ c ∈ marks := by
  obtain ⟨sign, whole, fraction, exponent⟩ := n
  have signs (sign : Sign) : ∀ c ∈ sign.text, c ∈ marks := by
    cases sign <;> decide
  simp only [text, List.mem_append] at mem
  rcases mem with ((signed | digit) | fractional) | scaled
  · exact .inr (signs sign c signed)
  · exact .inl (formed.whole c digit)
  · cases fraction with
    | none => exact absurd fractional List.not_mem_nil
    | some f =>
      rcases List.mem_cons.mp fractional with rfl | digit
      · exact .inr (by decide)
      · exact .inl (formed.fraction f rfl c digit)
  · cases exponent with
    | none => exact absurd scaled List.not_mem_nil
    | some e =>
      have power := formed.exponent e rfl
      simp only [Option.elim_some, Exponent.text, List.mem_cons, List.mem_append] at scaled
      rcases scaled with rfl | signed | digit
      · rcases power.mark with small | capital
        · exact .inr (small ▸ by decide)
        · exact .inr (capital ▸ by decide)
      · exact .inr (signs e.sign c signed)
      · exact .inl (power.digits c digit)

theorem Formed.not_isBlank {n : Numeral} (formed : n.Formed) {c : CodePoint} (mem : c ∈ n.text) :
    c.isBlank = false := by
  have apart : ∀ c ∈ marks, c.isBlank = false := by decide
  rcases formed.mem_text mem with digit | mark
  · exact CodePoint.not_isBlank_of_isDecimalDigit digit
  · exact apart c mark

/-! ## Parts are read as far as they go -/

/-- Behind its sign a numeral begins with a digit or a point. -/
theorem Formed.starts {n : Numeral} (formed : n.Formed) :
    ∃ c rest, n.unsignedText = c :: rest ∧ (c.isDecimalDigit ∨ c = CodePoint.ofChar '.') := by
  obtain ⟨sign, whole, fraction, exponent⟩ := n
  cases whole with
  | cons first others => exact ⟨first, _, rfl, .inl (formed.whole first List.mem_cons_self)⟩
  | nil =>
    cases fraction with
    | none => simpa using formed.filled
    | some f => exact ⟨_, _, rfl, .inr rfl⟩

/-- A numeral begins with its sign. -/
theorem Formed.read_sign {n : Numeral} (formed : n.Formed) (rest : Text) :
    Sign.read (n.text ++ rest) = (n.sign, n.unsignedText ++ rest) := by
  obtain ⟨first, others, written, starts⟩ := formed.starts
  rw [text_eq, List.append_assoc, written]
  refine Sign.read_append n.sign ?_
  rintro c ⟨⟩
  rcases starts with digit | rfl
  · exact CodePoint.unsigned_of_isDecimalDigit digit
  · decide

theorem Formed.read_sign_text {n : Numeral} (formed : n.Formed) :
    Sign.read n.text = (n.sign, n.unsignedText) := by
  simpa using formed.read_sign []

theorem readFraction_append {f : Text} (digits : ∀ c ∈ f, c.isDecimalDigit) (rest : Text) :
    readFraction (fractionText (some f) ++ rest) =
      (some (f ++ rest.takeWhile CodePoint.isDecimalDigit),
        rest.dropWhile CodePoint.isDecimalDigit) := by
  simp [fractionText, readFraction, List.takeWhile_append_of_pos digits,
    List.dropWhile_append_of_pos digits]

/-- A fraction is read exactly where no digit follows, and no point where there is no fraction. -/
theorem readFraction_exact {fraction : Option Text}
    (digits : ∀ f ∈ fraction, ∀ c ∈ f, c.isDecimalDigit) {tail : Text}
    (ends : ∀ c ∈ tail.head?, c.isDecimalDigit = false ∧ c ≠ CodePoint.ofChar '.') :
    readFraction (fractionText fraction ++ tail) = (fraction, tail) := by
  cases fraction with
  | none =>
    cases tail with
    | nil => rfl
    | cons c tail => simp [fractionText, readFraction, ends c rfl]
  | some f =>
    obtain ⟨taken, dropped⟩ := Text.span_digits (digits f rfl) fun c head => (ends c head).1
    simp [fractionText, readFraction, taken, dropped]

theorem readExponent_append {e : Exponent} (formed : e.Formed) (rest : Text) :
    readExponent (e.text ++ rest) =
      (some { e with digits := e.digits ++ rest.takeWhile CodePoint.isDecimalDigit },
        rest.dropWhile CodePoint.isDecimalDigit) := by
  obtain ⟨mark, sign, run⟩ := e
  obtain ⟨first, others, rfl⟩ := List.exists_cons_of_ne_nil formed.filled
  have decimal := formed.digits first List.mem_cons_self
  have signed := Sign.read_digit sign decimal (others ++ rest)
  have taken : (first :: (others ++ rest)).takeWhile CodePoint.isDecimalDigit =
      first :: (others ++ rest.takeWhile CodePoint.isDecimalDigit) :=
    List.takeWhile_append_of_pos formed.digits
  have dropped : (first :: (others ++ rest)).dropWhile CodePoint.isDecimalDigit =
      rest.dropWhile CodePoint.isDecimalDigit :=
    List.dropWhile_append_of_pos formed.digits
  simp only [Exponent.text, List.cons_append, List.append_assoc, readExponent, formed.mark, signed,
    taken, dropped, ↓reduceIte]

/-- A numeral is read from its parts. -/
theorem read?_eq {t body tail rest whole : Text} {sign : Sign} {fraction : Option Text}
    {exponent : Option Exponent} (signed : Sign.read t = (sign, body))
    (digits : body.takeWhile CodePoint.isDecimalDigit = whole)
    (fractional : readFraction (body.dropWhile CodePoint.isDecimalDigit) = (fraction, tail))
    (filled : whole ≠ [] ∨ fraction.getD [] ≠ []) (scaled : readExponent tail = (exponent, rest)) :
    read? t = some (⟨sign, whole, fraction, exponent⟩, rest) := by
  subst digits
  have unfilled := not_and_or.mpr filled
  simp only [read?, signed, fractional, unfilled, scaled, ↓reduceIte]

/-! ## Numerals are read at least to their end

Only the last part of a numeral can be longer in a text that goes on. -/

section
variable {sign : Sign} {whole f : Text} {fraction : Option Text} {e : Exponent}

/-- A numeral that ends in its exponent goes on with the digits that follow. -/
theorem Formed.read?_exponent (formed : Formed ⟨sign, whole, fraction, some e⟩) (rest : Text) :
    read? (text ⟨sign, whole, fraction, some e⟩ ++ rest) =
      some (⟨sign, whole, fraction,
          some { e with digits := e.digits ++ rest.takeWhile CodePoint.isDecimalDigit }⟩,
        rest.dropWhile CodePoint.isDecimalDigit) := by
  have signed := formed.read_sign rest
  simp only [unsignedText, List.append_assoc] at signed
  have power := formed.exponent e rfl
  have ends : ∀ c ∈ (e.text ++ rest).head?,
      c.isDecimalDigit = false ∧ c ≠ CodePoint.ofChar '.' := by
    rintro c ⟨⟩
    rcases power.mark with mark | mark <;> rw [mark] <;> decide
  have stops : ∀ c ∈ (fractionText fraction ++ (e.text ++ rest)).head?,
      c.isDecimalDigit = false := by
    cases fraction with
    | none => exact fun c head => (ends c head).1
    | some f =>
      rintro c ⟨⟩
      decide
  obtain ⟨taken, dropped⟩ := Text.span_digits formed.whole stops
  have fractional := readFraction_exact formed.fraction ends
  rw [← dropped] at fractional
  exact read?_eq signed taken fractional formed.filled (readExponent_append power rest)

/-- A numeral that ends in its fraction goes on with the digits that follow, and perhaps with an
exponent. -/
theorem Formed.read?_fraction (formed : Formed ⟨sign, whole, some f, none⟩) (rest : Text) :
    let scaled := readExponent (rest.dropWhile CodePoint.isDecimalDigit)
    read? (text ⟨sign, whole, some f, none⟩ ++ rest) =
      some (⟨sign, whole, some (f ++ rest.takeWhile CodePoint.isDecimalDigit), scaled.1⟩,
        scaled.2) := by
  have signed := formed.read_sign rest
  simp only [unsignedText, List.append_assoc] at signed
  have stops : ∀ c ∈ (fractionText (some f) ++ rest).head?, c.isDecimalDigit = false := by
    rintro c ⟨⟩
    decide
  obtain ⟨taken, dropped⟩ := Text.span_digits formed.whole stops
  have fractional := readFraction_append (formed.fraction f rfl) rest
  rw [← dropped] at fractional
  refine read?_eq signed taken fractional ?_ rfl
  exact formed.filled.imp_right fun filled => List.append_ne_nil_of_left_ne_nil filled _

/-- A numeral of digits alone goes on with the digits that follow, and perhaps with a fraction and
an exponent. -/
theorem Formed.read?_whole (formed : Formed ⟨sign, whole, none, none⟩) (rest : Text) :
    let fractional := readFraction (rest.dropWhile CodePoint.isDecimalDigit)
    let scaled := readExponent fractional.2
    read? (text ⟨sign, whole, none, none⟩ ++ rest) =
      some (⟨sign, whole ++ rest.takeWhile CodePoint.isDecimalDigit, fractional.1, scaled.1⟩,
        scaled.2) := by
  have signed := formed.read_sign rest
  simp only [unsignedText, List.append_assoc] at signed
  have taken : (whole ++ rest).takeWhile CodePoint.isDecimalDigit =
      whole ++ rest.takeWhile CodePoint.isDecimalDigit :=
    List.takeWhile_append_of_pos formed.whole
  have dropped : (whole ++ rest).dropWhile CodePoint.isDecimalDigit =
      rest.dropWhile CodePoint.isDecimalDigit :=
    List.dropWhile_append_of_pos formed.whole
  have filled : whole ≠ [] := by simpa using formed.filled
  exact read?_eq signed taken (congrArg readFraction dropped)
    (.inl (List.append_ne_nil_of_left_ne_nil filled _)) rfl

end

/-- **Reading goes on at least to the end of a numeral** that a text begins with. -/
theorem Formed.exists_read? {m : Numeral} (formed : m.Formed) (rest : Text) :
    ∃ n more left, read? (m.text ++ rest) = some (n, left) ∧ n.text = m.text ++ more := by
  obtain ⟨sign, whole, fraction, exponent⟩ := m
  cases exponent with
  | some e =>
    refine ⟨_, rest.takeWhile CodePoint.isDecimalDigit, _, formed.read?_exponent rest, ?_⟩
    simp [text, Exponent.text]
  | none =>
    let more := rest.takeWhile CodePoint.isDecimalDigit
    let tail := rest.dropWhile CodePoint.isDecimalDigit
    cases fraction with
    | some f =>
      refine ⟨_, more ++ (readExponent tail).1.elim [] Exponent.text, _,
        formed.read?_fraction rest, ?_⟩
      simp [text, more, tail]
    | none =>
      refine ⟨_, more ++ (fractionText (readFraction tail).1 ++
        (readExponent (readFraction tail).2).1.elim [] Exponent.text), _,
        formed.read?_whole rest, ?_⟩
      simp [text, fractionText, more, tail]

/-- A numeral that is written out is read as itself. -/
theorem Formed.read?_text {n : Numeral} (formed : n.Formed) : read? n.text = some (n, []) := by
  obtain ⟨sign, whole, fraction, exponent⟩ := n
  cases exponent with
  | some e => simpa using formed.read?_exponent []
  | none =>
    cases fraction with
    | some f => simpa [readExponent] using formed.read?_fraction []
    | none => simpa [readFraction, readExponent] using formed.read?_whole []

/-- No two numerals are written alike. -/
theorem Formed.text_inj {n m : Numeral} (formed : n.Formed) (formed' : m.Formed)
    (same : n.text = m.text) : n = m := by
  have read := formed.read?_text
  rw [same, formed'.read?_text] at read
  exact (Prod.mk.inj (Option.some.inj read)).1.symm

theorem Formed.text_ne_nil {n : Numeral} (formed : n.Formed) : n.text ≠ [] := by
  intro empty
  have read := formed.read?_text
  rw [empty] at read
  nomatch read

/-! ## What is read is a numeral -/

theorem digits_readFraction (t : Text) :
    ∀ f ∈ (readFraction t).1, ∀ c ∈ f, c.isDecimalDigit := by
  cases t with
  | nil => simp [readFraction]
  | cons c rest =>
    by_cases point : c = '.'
    · simp only [readFraction, point, ↓reduceIte]
      rintro f ⟨⟩
      exact Text.isDecimalDigit_of_mem_takeWhile rest
    · simp [readFraction, point]

theorem formed_readExponent (t : Text) : ∀ e ∈ (readExponent t).1, e.Formed := by
  cases t with
  | nil => simp [readExponent]
  | cons c rest =>
    by_cases marked : c = 'e' ∨ c = 'E'
    · simp only [readExponent, marked, ↓reduceIte]
      split
      · simp
      · next digits filled =>
        rintro e ⟨⟩
        exact ⟨marked, filled, Text.isDecimalDigit_of_mem_takeWhile _⟩
    · simp [readExponent, marked]

theorem formed_of_read? {t rest : Text} {n : Numeral} (found : read? t = some (n, rest)) :
    n.Formed := by
  simp only [read?] at found
  split at found
  · simp at found
  · next filled =>
    obtain ⟨rfl, rfl⟩ := Prod.mk.inj (Option.some.inj found)
    exact ⟨Text.isDecimalDigit_of_mem_takeWhile _, digits_readFraction _, not_and_or.mp filled,
      formed_readExponent _⟩

/-! ## The longest beginning -/

/-- White space and a numeral. -/
def Spells (p : Text) (n : Numeral) : Prop :=
  n.Formed ∧ ∃ blanks : Text, (∀ c ∈ blanks, c.isBlank) ∧ p = blanks ++ n.text

/-- The longest beginning of a text that is white space and a numeral. -/
structure Longest (t p : Text) (n : Numeral) : Prop where
  begins : p <+: t
  spells : Spells p n
  longest : ∀ q m, q <+: t → Spells q m → q.length ≤ p.length

/-- White space ends where a numeral begins. -/
theorem Formed.span_isBlank {n : Numeral} (formed : n.Formed) {blanks : Text}
    (blank : ∀ c ∈ blanks, c.isBlank) (rest : Text) :
    (blanks ++ (n.text ++ rest)).takeWhile CodePoint.isBlank = blanks ∧
      (blanks ++ (n.text ++ rest)).dropWhile CodePoint.isBlank = n.text ++ rest := by
  obtain ⟨c, others, written⟩ := List.exists_cons_of_ne_nil formed.text_ne_nil
  have first : ¬ c.isBlank := by simp [formed.not_isBlank (written ▸ List.mem_cons_self)]
  rw [List.takeWhile_append_of_pos blank, List.dropWhile_append_of_pos blank, written,
    List.cons_append, List.takeWhile_cons_of_neg first, List.dropWhile_cons_of_neg first,
    List.append_nil]
  exact ⟨rfl, rfl⟩

/-- A numeral has all leading white space of a text in front of it. -/
theorem Spells.eq_append {t q : Text} {n : Numeral} (spells : Spells q n) (begins : q <+: t) :
    q = t.takeWhile CodePoint.isBlank ++ n.text ∧ n.text <+: t.dropWhile CodePoint.isBlank := by
  obtain ⟨formed, blanks, blank, rfl⟩ := spells
  obtain ⟨rest, rfl⟩ := begins
  obtain ⟨taken, dropped⟩ := formed.span_isBlank blank rest
  rw [List.append_assoc, taken, dropped]
  exact ⟨rfl, rest, rfl⟩

/-- What a text is read as goes on with every numeral that the text begins with. -/
theorem Spells.exists_leading? {t q : Text} {m : Numeral} (spells : Spells q m)
    (begins : q <+: t) : ∃ n more, leading? t = some n ∧ n.text = m.text ++ more := by
  obtain ⟨rest, follows⟩ := (spells.eq_append begins).2
  obtain ⟨n, more, left, found, text⟩ := spells.1.exists_read? rest
  rw [follows] at found
  exact ⟨n, more, by rw [leading?, found, Option.map_some], text⟩

/-- **The numeral that is found is the longest one.** -/
theorem longest_of_leading? {t : Text} {n : Numeral} (leads : leading? t = some n) :
    Longest t (t.takeWhile CodePoint.isBlank ++ n.text) n := by
  obtain ⟨⟨_, rest⟩, found, rfl⟩ := Option.map_eq_some_iff.mp leads
  have formed := formed_of_read? found
  refine ⟨⟨rest, ?_⟩, ⟨formed, _, fun c mem => List.mem_takeWhile_imp mem, rfl⟩, ?_⟩
  · rw [List.append_assoc, text_of_read? found, List.takeWhile_append_dropWhile]
  · intro q m begins spells
    obtain ⟨n', more, leads', text⟩ := spells.exists_leading? begins
    obtain rfl := Option.some.inj (leads.symm.trans leads')
    rw [(spells.eq_append begins).1, text]
    simp

/-- One is found unless the text begins with none. -/
theorem leading?_eq_none_iff {t : Text} :
    leading? t = none ↔ ∀ p n, p <+: t → ¬ Spells p n := by
  constructor
  · intro none p n begins spells
    obtain ⟨m, -, leads, -⟩ := spells.exists_leading? begins
    rw [none] at leads
    nomatch leads
  · intro without
    cases leads : leading? t with
    | none => rfl
    | some n =>
      have longest := longest_of_leading? leads
      exact absurd longest.spells (without _ _ longest.begins)

/-- A text has no two longest beginnings. -/
theorem Longest.unique {t p q : Text} {n m : Numeral} (longest : Longest t p n)
    (longest' : Longest t q m) : p = q ∧ n = m := by
  have within : p <+: q := List.prefix_of_prefix_length_le longest.begins longest'.begins
    (longest'.longest p n longest.begins longest.spells)
  obtain rfl : p = q :=
    within.eq_of_length_le (longest.longest q m longest'.begins longest'.spells)
  have texts := (longest.spells.eq_append longest.begins).1.symm.trans
    (longest'.spells.eq_append longest'.begins).1
  exact ⟨rfl, longest.spells.1.text_inj longest'.spells.1 (List.append_cancel_left texts)⟩

end Numeral

end SqlTemplate
