import SqlTemplate.Text.CodePoint

/-!
# Addresses of four bytes

An address has up to four parts with full stops between them. The last part stands for all bytes
that the others leave. A part is hexadecimal behind `0x`, octal behind another zero, else decimal.
-/

namespace SqlTemplate

structure Ipv4 where
  val : Nat
  isLt : val < 0x100000000
  deriving DecidableEq

namespace Ipv4

def ofNat? (n : Nat) : Option Ipv4 :=
  if h : n < 0x100000000 then some ⟨n, h⟩ else none

/-- The number that digits of a base spell. No digits spell zero. -/
def digits? (base : Nat) (t : Text) : Option Nat :=
  t.foldlM (fun n c => c.hexDigit?.bind fun d => if d < base then some (base * n + d) else none) 0

def part? : Text → Option Nat
  | [] => none
  | [c] => digits? 10 [c]
  | c :: d :: rest =>
    if c ≠ '0' then digits? 10 (c :: d :: rest)
    else if d = 'x' ∨ d = 'X' then digits? 16 rest
    else digits? 8 (d :: rest)

/-- The parts of a text; a full stop at the end is not counted. -/
def partsOf (t : Text) : List Text :=
  let parts := Text.split (· = CodePoint.ofChar '.') t
  if parts.getLast? = some [] then parts.dropLast else parts

/-- Whether a name ends with a number, so that it has to be an address. -/
def isMeant (name : Text) : Bool :=
  (partsOf name).getLast?.any fun last =>
    last ≠ [] && (last.all CodePoint.isAsciiDigit || (part? last).isSome)

/-- The address that a text spells. -/
def ofText? (t : Text) : Option Ipv4 := do
  let numbers ← (partsOf t).mapM part?
  let last ← numbers.getLast?
  let first := numbers.dropLast
  let room := Nat.pow 256 (4 - first.length)
  if 4 < numbers.length ∨ first.any (255 < ·) ∨ room ≤ last then none
  else ofNat? (first.foldl (fun n part => 256 * n + part) 0 * room + last)

def text (a : Ipv4) : Text :=
  let byte (unit : Nat) : Text := Text.ofNat (a.val / unit % 256)
  Text.join "." [byte 0x1000000, byte 0x10000, byte 0x100, byte 1]

end Ipv4

end SqlTemplate
