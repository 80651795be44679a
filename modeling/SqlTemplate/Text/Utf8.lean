import SqlTemplate.Text.CodePoint

/-!
# UTF-8

Only the shortest form of a code point is well formed. A surrogate has no form in strict UTF-8; the
lenient reading takes its three bytes for the code point.
-/

namespace SqlTemplate.Utf8

/-- A continuation byte's six bits. -/
def tail? (b : UInt8) : Option Nat :=
  if 0x80 ≤ b ∧ b ≤ 0xBF then some (b.toNat - 0x80) else none

def two? (a b : UInt8) : Option CodePoint :=
  if 0xC2 ≤ a ∧ a ≤ 0xDF then do
    CodePoint.ofNat? ((a.toNat - 0xC0) * 0x40 + (← tail? b))
  else none

def three? (surrogates : Bool) (a b c : UInt8) : Option CodePoint :=
  if 0xE0 ≤ a ∧ a ≤ 0xEF ∧ (a = 0xE0 → 0xA0 ≤ b) ∧ (a = 0xED → surrogates = true ∨ b ≤ 0x9F) then do
    CodePoint.ofNat? (((a.toNat - 0xE0) * 0x40 + (← tail? b)) * 0x40 + (← tail? c))
  else none

def four? (a b c d : UInt8) : Option CodePoint :=
  if 0xF0 ≤ a ∧ a ≤ 0xF4 ∧ (a = 0xF0 → 0x90 ≤ b) ∧ (a = 0xF4 → b ≤ 0x8F) then do
    let high := (a.toNat - 0xF0) * 0x40 + (← tail? b)
    CodePoint.ofNat? ((high * 0x40 + (← tail? c)) * 0x40 + (← tail? d))
  else none

/-- Reads code points onto `read`, which holds the earlier ones in reverse. -/
def decodeOnto (surrogates : Bool) (read : Text) : List UInt8 → Option Text
  | [] => some read.reverse
  | a :: rest =>
    if a < 0x80 then
      (CodePoint.ofNat? a.toNat).bind fun x => decodeOnto surrogates (x :: read) rest
    else
      match rest with
      | [] => none
      | b :: rest =>
        match two? a b with
        | some x => decodeOnto surrogates (x :: read) rest
        | none =>
          match rest with
          | [] => none
          | c :: rest =>
            match three? surrogates a b c with
            | some x => decodeOnto surrogates (x :: read) rest
            | none =>
              match rest with
              | [] => none
              | d :: rest =>
                match four? a b c d with
                | some x => decodeOnto surrogates (x :: read) rest
                | none => none

/-- The text of well-formed UTF-8. -/
def decode? (bytes : List UInt8) : Option Text :=
  decodeOnto false [] bytes

/-- The text of UTF-8 in which surrogates are let through. -/
def decodeLenient? (bytes : List UInt8) : Option Text :=
  decodeOnto true [] bytes

def encodeCodePoint (c : CodePoint) : List UInt8 :=
  let n := c.val
  let tail (k : Nat) : UInt8 := .ofNat (0x80 + k % 0x40)
  if n < 0x80 then [.ofNat n]
  else if n < 0x800 then [.ofNat (0xC0 + n / 0x40), tail n]
  else if n < 0x10000 then [.ofNat (0xE0 + n / 0x1000), tail (n / 0x40), tail n]
  else [.ofNat (0xF0 + n / 0x40000), tail (n / 0x1000), tail (n / 0x40), tail n]

def encode (t : Text) : List UInt8 :=
  t.flatMap encodeCodePoint

end SqlTemplate.Utf8
