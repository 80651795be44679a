import SqlTemplate.Text.Utf8

/-!
# Percent escapes

A byte may be written as a percent sign and two hexadecimal digits.
-/

namespace SqlTemplate.Url

def oneOf (set : String) (c : CodePoint) : Bool :=
  (Text.ofString set).contains c

def escapeByte (b : UInt8) : Text :=
  let digit (n : Nat) : CodePoint := CodePoint.ofChar ("0123456789ABCDEF".toList.getD n '0')
  [CodePoint.ofChar '%', digit (b.toNat / 16), digit (b.toNat % 16)]

/-- Escapes controls, code points beyond ASCII and those in `set`. -/
def escapeWhere (set : String) (t : Text) : Text :=
  t.flatMap fun c =>
    if c.val < 0x20 || 0x7E < c.val || oneOf set c then (Utf8.encodeCodePoint c).flatMap escapeByte
    else [c]

/-- The byte of an escape whose percent sign is behind `t`. -/
def escaped? : Text → Option UInt8
  | high :: low :: _ => do some (.ofNat (16 * (← high.hexDigit?) + (← low.hexDigit?)))
  | _ => none

/-- The bytes of a text, each escape standing for its byte. The next `skip` code points belong to an
escape already read. -/
def bytesFrom (skip : Nat) : Text → List UInt8
  | [] => []
  | c :: rest =>
    match skip with
    | skip + 1 => bytesFrom skip rest
    | 0 =>
      match if c = '%' then escaped? rest else none with
      | some b => b :: bytesFrom 2 rest
      | none => Utf8.encodeCodePoint c ++ bytesFrom 0 rest

/-- The text that a text with escapes stands for, if its bytes are UTF-8. -/
def unescape? (t : Text) : Option Text :=
  Utf8.decode? (bytesFrom 0 t)

end SqlTemplate.Url
