import SqlTemplate.Text.Utf8

/-!
# UTF-8 has one form for each text

The bytes of a code point are read as that code point, and only they are: what is read was spelled
by exactly the bytes that it was read from (`Utf8.eq_encode_of_decodeOnto`). So the strict reading
inverts the spelling of texts without surrogates and accepts nothing else
(`Utf8.decode?_eq_some_iff`).
-/

namespace SqlTemplate

theorem CodePoint.ofNat?_eq_some_iff {n : Nat} {x : CodePoint} :
    CodePoint.ofNat? n = some x ↔ x.val = n := by
  obtain ⟨val, isLt⟩ := x
  unfold CodePoint.ofNat?
  split
  · simp [eq_comm]
  · simp
    omega

namespace Utf8

/-! ## What each form reads -/

theorem tail?_eq_some_iff {b : UInt8} {n : Nat} :
    tail? b = some n ↔ n < 0x40 ∧ b.toNat = 0x80 + n := by
  simp only [tail?, UInt8.le_iff_toNat_le, UInt8.reduceToNat]
  split
  · simp only [Option.some.injEq]
    omega
  · simp only [reduceCtorEq, false_iff]
    omega

theorem two?_eq_some_iff {a b : UInt8} {x : CodePoint} :
    two? a b = some x ↔
      (0x80 ≤ x.val ∧ x.val < 0x800) ∧ a.toNat = 0xC0 + x.val / 0x40 ∧
        b.toNat = 0x80 + x.val % 0x40 := by
  simp only [two?, UInt8.le_iff_toNat_le, UInt8.reduceToNat]
  split
  · simp only [Option.bind_eq_bind, Option.bind_eq_some_iff, tail?_eq_some_iff,
      CodePoint.ofNat?_eq_some_iff]
    constructor
    · rintro ⟨n, ⟨small, tail⟩, value⟩
      omega
    · rintro ⟨range, lead, tail⟩
      exact ⟨x.val % 0x40, by omega, by omega⟩
  · simp only [reduceCtorEq, false_iff]
    omega

theorem three?_eq_some_iff {surrogates : Bool} {a b c : UInt8} {x : CodePoint} :
    three? surrogates a b c = some x ↔
      (0x800 ≤ x.val ∧ x.val < 0x10000 ∧ (x.isSurrogate → surrogates)) ∧
        a.toNat = 0xE0 + x.val / 0x1000 ∧ b.toNat = 0x80 + x.val / 0x40 % 0x40 ∧
        c.toNat = 0x80 + x.val % 0x40 := by
  simp only [three?, CodePoint.isSurrogate, CodePoint.within, UInt8.le_iff_toNat_le,
    ← UInt8.toNat_inj, UInt8.reduceToNat, Bool.and_eq_true, decide_eq_true_eq]
  split
  · simp only [Option.bind_eq_bind, Option.bind_eq_some_iff, tail?_eq_some_iff,
      CodePoint.ofNat?_eq_some_iff]
    constructor
    · rintro ⟨m, ⟨small, second⟩, n, ⟨small', third⟩, value⟩
      refine ⟨⟨by omega, by omega, ?_⟩, by omega, by omega, by omega⟩
      intro range
      grind
    · rintro ⟨range, lead, second, third⟩
      exact ⟨x.val / 0x40 % 0x40, by omega, x.val % 0x40, by omega, by omega⟩
  · simp only [reduceCtorEq, false_iff]
    grind

theorem four?_eq_some_iff {a b c d : UInt8} {x : CodePoint} :
    four? a b c d = some x ↔
      0x10000 ≤ x.val ∧ a.toNat = 0xF0 + x.val / 0x40000 ∧ b.toNat = 0x80 + x.val / 0x1000 % 0x40 ∧
        c.toNat = 0x80 + x.val / 0x40 % 0x40 ∧ d.toNat = 0x80 + x.val % 0x40 := by
  have top := x.isLt
  simp only [four?, UInt8.le_iff_toNat_le, ← UInt8.toNat_inj, UInt8.reduceToNat]
  split
  · simp only [Option.bind_eq_bind, Option.bind_eq_some_iff, tail?_eq_some_iff,
      CodePoint.ofNat?_eq_some_iff]
    constructor
    · rintro ⟨l, ⟨small, second⟩, m, ⟨small', third⟩, n, ⟨small'', fourth⟩, value⟩
      omega
    · rintro ⟨range, lead, second, third, fourth⟩
      exact ⟨x.val / 0x1000 % 0x40, by omega, x.val / 0x40 % 0x40, by omega, x.val % 0x40,
        by omega, by omega⟩
  · simp only [reduceCtorEq, false_iff]
    omega

theorem two?_eq_none {a b : UInt8} (lead : 0xE0 ≤ a.toNat) : two? a b = none := by
  rw [Option.eq_none_iff_forall_not_mem]
  intro x found
  have := two?_eq_some_iff.mp found
  omega

theorem three?_eq_none {surrogates : Bool} {a b c : UInt8} (lead : 0xF0 ≤ a.toNat) :
    three? surrogates a b c = none := by
  rw [Option.eq_none_iff_forall_not_mem]
  intro x found
  have := three?_eq_some_iff.mp found
  omega

/-! ## Spelling and reading -/

/-- A code point takes one byte, or those of one of the forms that are read. -/
theorem encodeCodePoint_cases {surrogates : Bool} {x : CodePoint}
    (spelled : x.isSurrogate → surrogates) :
    (∃ a, encodeCodePoint x = [a] ∧ a < 0x80 ∧ x.val = a.toNat) ∨
    (∃ a b, encodeCodePoint x = [a, b] ∧ two? a b = some x) ∨
    (∃ a b c, encodeCodePoint x = [a, b, c] ∧ three? surrogates a b c = some x) ∨
    ∃ a b c d, encodeCodePoint x = [a, b, c, d] ∧ four? a b c d = some x := by
  have top := x.isLt
  have byte {n : Nat} (small : n < 0x100) : (UInt8.ofNat n).toNat = n := by
    rw [UInt8.toNat_ofNat', Nat.mod_eq_of_lt small]
  unfold encodeCodePoint
  by_cases one : x.val < 0x80
  · refine .inl ⟨_, if_pos one, ?_, (byte (by omega)).symm⟩
    rw [UInt8.lt_iff_toNat_lt, byte (by omega)]
    exact one
  by_cases two : x.val < 0x800
  · refine .inr (.inl ⟨_, _, by rw [if_neg one, if_pos two], ?_⟩)
    rw [two?_eq_some_iff, byte (by omega), byte (by omega)]
    omega
  by_cases three : x.val < 0x10000
  · refine .inr (.inr (.inl ⟨_, _, _, by rw [if_neg one, if_neg two, if_pos three], ?_⟩))
    rw [three?_eq_some_iff, byte (by omega), byte (by omega), byte (by omega)]
    exact ⟨⟨by omega, three, spelled⟩, rfl, rfl, rfl⟩
  · refine .inr (.inr (.inr ⟨_, _, _, _, by rw [if_neg one, if_neg two, if_neg three], ?_⟩))
    rw [four?_eq_some_iff, byte (by omega), byte (by omega), byte (by omega), byte (by omega)]
    omega

/-- The bytes of a code point are read as that code point. -/
theorem decodeOnto_encodeCodePoint {surrogates : Bool} {x : CodePoint}
    (spelled : x.isSurrogate → surrogates) (read : Text) (rest : List UInt8) :
    decodeOnto surrogates read (encodeCodePoint x ++ rest) =
      decodeOnto surrogates (x :: read) rest := by
  have high {a : UInt8} (lead : 0x80 ≤ a.toNat) : ¬ a < 0x80 := by
    rw [UInt8.lt_iff_toNat_lt]
    exact Nat.not_lt.mpr lead
  rcases encodeCodePoint_cases spelled with ⟨a, bytes, small, value⟩ | ⟨a, b, bytes, found⟩ |
    ⟨a, b, c, bytes, found⟩ | ⟨a, b, c, d, bytes, found⟩
  · have same := CodePoint.ofNat?_eq_some_iff.mpr value
    rw [bytes, List.singleton_append, decodeOnto.eq_def]
    simp only [small, if_true, same, Option.bind_some]
  · have lead := (two?_eq_some_iff.mp found).2.1
    rw [bytes, List.cons_append, List.singleton_append, decodeOnto.eq_def]
    simp only
    rw [if_neg (high (by omega)), found]
  · have lead := (three?_eq_some_iff.mp found).2.1
    have longer : two? a b = none := two?_eq_none (by omega)
    rw [bytes, List.cons_append, List.cons_append, List.singleton_append, decodeOnto.eq_def]
    simp only
    rw [if_neg (high (by omega)), longer]
    simp only [found]
  · have lead := (four?_eq_some_iff.mp found).2.1
    have longer : two? a b = none := two?_eq_none (by omega)
    have longer' : three? surrogates a b c = none := three?_eq_none (by omega)
    rw [bytes, List.cons_append, List.cons_append, List.cons_append, List.singleton_append,
      decodeOnto.eq_def]
    simp only
    rw [if_neg (high (by omega)), longer]
    simp only [longer', found]

theorem decodeOnto_encode {surrogates : Bool} {t : Text}
    (spelled : ∀ x ∈ t, x.isSurrogate → surrogates) (read : Text) :
    decodeOnto surrogates read (encode t) = some (read.reverse ++ t) := by
  induction t generalizing read with
  | nil => simp [encode, decodeOnto]
  | cons x t ih =>
    obtain ⟨first, others⟩ := List.forall_mem_cons.mp spelled
    rw [encode, List.flatMap_cons, decodeOnto_encodeCodePoint first, ← encode, ih others]
    simp

/-! ## Reading and spelling -/

theorem encodeCodePoint_of_one {a : UInt8} {x : CodePoint} (small : a < 0x80)
    (read : CodePoint.ofNat? a.toNat = some x) : encodeCodePoint x = [a] := by
  have value := CodePoint.ofNat?_eq_some_iff.mp read
  have one : x.val < 0x80 := by
    rw [value]
    exact UInt8.lt_iff_toNat_lt.mp small
  rw [encodeCodePoint, if_pos one, value, UInt8.ofNat_toNat]

theorem encodeCodePoint_of_two {a b : UInt8} {x : CodePoint} (read : two? a b = some x) :
    encodeCodePoint x = [a, b] := by
  obtain ⟨range, lead, tail⟩ := two?_eq_some_iff.mp read
  rw [encodeCodePoint, if_neg (by omega), if_pos range.2]
  simp only [← lead, ← tail, UInt8.ofNat_toNat]

theorem encodeCodePoint_of_three {surrogates : Bool} {a b c : UInt8} {x : CodePoint}
    (read : three? surrogates a b c = some x) : encodeCodePoint x = [a, b, c] := by
  obtain ⟨range, lead, second, third⟩ := three?_eq_some_iff.mp read
  rw [encodeCodePoint, if_neg (by omega), if_neg (by omega), if_pos range.2.1]
  simp only [← lead, ← second, ← third, UInt8.ofNat_toNat]

theorem encodeCodePoint_of_four {a b c d : UInt8} {x : CodePoint} (read : four? a b c d = some x) :
    encodeCodePoint x = [a, b, c, d] := by
  obtain ⟨range, lead, second, third, fourth⟩ := four?_eq_some_iff.mp read
  rw [encodeCodePoint, if_neg (by omega), if_neg (by omega), if_neg (by omega)]
  simp only [← lead, ← second, ← third, ← fourth, UInt8.ofNat_toNat]

/-- Whatever is read is spelled by exactly the bytes that it was read from. -/
theorem eq_encode_of_decodeOnto {surrogates : Bool} {read t : Text} {bytes : List UInt8}
    (decoded : decodeOnto surrogates read bytes = some t) :
    ∃ u, t = read.reverse ++ u ∧ bytes = encode u ∧ ∀ x ∈ u, x.isSurrogate → surrogates := by
  have extend {x : CodePoint} {front rest : List UInt8} {read : Text}
      (spells : encodeCodePoint x = front) (spelled : x.isSurrogate → surrogates)
      (others : ∃ u, t = (x :: read).reverse ++ u ∧ rest = encode u ∧
        ∀ x ∈ u, x.isSurrogate → surrogates) :
      ∃ u, t = read.reverse ++ u ∧ front ++ rest = encode u ∧
        ∀ x ∈ u, x.isSurrogate → surrogates := by
    obtain ⟨u, rfl, rfl, each⟩ := others
    refine ⟨x :: u, by simp, ?_, List.forall_mem_cons.mpr ⟨spelled, each⟩⟩
    rw [encode, encode, List.flatMap_cons, spells]
  -- a code point of another length is no surrogate
  have plain {x : CodePoint} (range : x.val < 0x800 ∨ 0x10000 ≤ x.val) :
      x.isSurrogate → surrogates := by
    intro lone
    simp only [CodePoint.isSurrogate, CodePoint.within, Bool.and_eq_true, decide_eq_true_eq] at lone
    omega
  fun_induction decodeOnto surrogates read bytes with
  | case1 read => exact ⟨[], by simpa using decoded.symm, rfl, by simp⟩
  | case2 read a rest small ih =>
    obtain ⟨x, found, others⟩ := Option.bind_eq_some_iff.mp decoded
    have value := CodePoint.ofNat?_eq_some_iff.mp found
    have one : a.toNat < 0x80 := UInt8.lt_iff_toNat_lt.mp small
    exact extend (encodeCodePoint_of_one small found) (plain (by omega)) (ih x others)
  | case4 read a large b rest x found ih =>
    have range := (two?_eq_some_iff.mp found).1
    exact extend (encodeCodePoint_of_two found) (plain (by omega)) (ih decoded)
  | case6 read a large b shorter c rest x found ih =>
    have range := (three?_eq_some_iff.mp found).1
    exact extend (encodeCodePoint_of_three found) range.2.2 (ih decoded)
  | case8 read a large b shorter c shorter' d rest x found ih =>
    have range := (four?_eq_some_iff.mp found).1
    exact extend (encodeCodePoint_of_four found) (plain (by omega)) (ih decoded)
  | case3 | case5 | case7 | case9 => simp at decoded

/-- **Decoding undoes encoding, and nothing else decodes.** Exactly the texts without surrogates
have a form in UTF-8, and each has one. -/
theorem decode?_eq_some_iff {bytes : List UInt8} {t : Text} :
    decode? bytes = some t ↔ bytes = encode t ∧ ∀ x ∈ t, x.isSurrogate = false := by
  constructor
  · intro decoded
    obtain ⟨u, rfl, rfl, plain⟩ := eq_encode_of_decodeOnto decoded
    exact ⟨rfl, fun x mem => by simpa using plain x mem⟩
  · rintro ⟨rfl, plain⟩
    exact decodeOnto_encode (fun x mem lone => by simp [plain x mem] at lone) []

end Utf8

end SqlTemplate
