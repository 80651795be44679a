import SqlTemplate.Text.Utf8

/-!
# Encodings of a JSON text

A byte order mark names the encoding; without one the zero bytes among the first four do, because a
JSON text begins with ASCII. Surrogates that stand alone are let through.
-/

namespace SqlTemplate

inductive Encoding
  | utf8
  | utf16 (bigEndian : Bool)
  | utf32 (bigEndian : Bool)
  deriving DecidableEq

namespace Encoding

/-- The encoding of a text, and its bytes without a byte order mark. -/
def detect (bytes : List UInt8) : Encoding × List UInt8 :=
  match bytes with
  | 0x00 :: 0x00 :: 0xFE :: 0xFF :: rest => (.utf32 true, rest)
  | 0xFF :: 0xFE :: 0x00 :: 0x00 :: rest => (.utf32 false, rest)
  | 0xFE :: 0xFF :: rest => (.utf16 true, rest)
  | 0xFF :: 0xFE :: rest => (.utf16 false, rest)
  | 0xEF :: 0xBB :: 0xBF :: rest => (.utf8, rest)
  | [a, b] => (if a = 0 then .utf16 true else if b = 0 then .utf16 false else .utf8, bytes)
  | a :: b :: c :: d :: _ =>
    (if a = 0 then (if b = 0 then .utf32 true else .utf16 true)
      else if b = 0 then (if c = 0 ∧ d = 0 then .utf32 false else .utf16 false)
      else .utf8, bytes)
  | _ => (.utf8, bytes)

/-- The 16-bit units of a text; `units` holds the earlier ones in reverse. -/
def units16 (bigEndian : Bool) (units : List Nat) : List UInt8 → Option (List Nat)
  | [] => some units.reverse
  | [_] => none
  | a :: b :: rest =>
    let unit := if bigEndian then a.toNat * 0x100 + b.toNat else b.toNat * 0x100 + a.toNat
    units16 bigEndian (unit :: units) rest

/-- Reads units of 16 bits, joining a high surrogate with a low one behind it. -/
def ofUnits16 (read : Text) : List Nat → Option Text
  | [] => some read.reverse
  | [u] => (CodePoint.ofNat? u).map fun c => (c :: read).reverse
  | u :: v :: rest =>
    if 0xD800 ≤ u ∧ u ≤ 0xDBFF ∧ 0xDC00 ≤ v ∧ v ≤ 0xDFFF then
      (CodePoint.ofNat? (0x10000 + (u - 0xD800) * 0x400 + (v - 0xDC00))).bind fun c =>
        ofUnits16 (c :: read) rest
    else (CodePoint.ofNat? u).bind fun c => ofUnits16 (c :: read) (v :: rest)

/-- Reads units of 32 bits. -/
def ofBytes32 (bigEndian : Bool) (read : Text) : List UInt8 → Option Text
  | [] => some read.reverse
  | a :: b :: c :: d :: rest =>
    let value (w x y z : UInt8) : Nat :=
      ((w.toNat * 0x100 + x.toNat) * 0x100 + y.toNat) * 0x100 + z.toNat
    (CodePoint.ofNat? (if bigEndian then value a b c d else value d c b a)).bind fun p =>
      ofBytes32 bigEndian (p :: read) rest
  | _ => none

def decode? : Encoding → List UInt8 → Option Text
  | .utf8, bytes => Utf8.decodeLenient? bytes
  | .utf16 bigEndian, bytes => (units16 bigEndian [] bytes).bind (ofUnits16 [])
  | .utf32 bigEndian, bytes => ofBytes32 bigEndian [] bytes

end Encoding

end SqlTemplate
