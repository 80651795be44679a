import SqlTemplate.Text.CodePoint

/-!
# Punycode

A label is written in ASCII as its ASCII code points, a hyphen, and for every other code point, in
ascending order, how far it is from the one before. A distance counts the places in the text
that the code points in between could have been put in. It is written with digits of base 36, the
least one first; how soon a digit ends the number follows the size of the distances so far.
-/

namespace SqlTemplate.Punycode

/-- The digit that is a small letter or, from 26 on, a decimal digit. -/
def digit (d : Nat) : CodePoint :=
  CodePoint.ofChar ("abcdefghijklmnopqrstuvwxyz0123456789".toList.getD d '0')

def digit? (c : CodePoint) : Option Nat :=
  if c.within 0x61 0x7A then some (c.val - 0x61)
  else if c.within 0x41 0x5A then some (c.val - 0x41)
  else if c.within 0x30 0x39 then some (c.val - 0x30 + 26)
  else none

/-- The least value with which the digit at `place` does not end its number. -/
def threshold (bias place : Nat) : Nat :=
  max 1 (min 26 (36 * (place + 1) - bias))

theorem threshold_pos (bias place : Nat) : 0 < threshold bias place := by
  unfold threshold
  omega

/-- The bias for distances like `distance`, which `places` added to so far. -/
def scaled (distance places : Nat) : Nat :=
  if 455 < distance then scaled (distance / 35) (places + 1)
  else 36 * places + 36 * distance / (distance + 38)
termination_by distance
decreasing_by omega

/-- The bias after a distance, the first one or a later one, to the `count`-th code point. -/
def adapted (distance count : Nat) (first : Bool) : Nat :=
  let distance := if first then distance / 700 else distance / 2
  scaled (distance + distance / count) 0

/-- The digits of a distance from `place` on. -/
def digits (bias place distance : Nat) : Text :=
  let t := threshold bias place
  if distance < t then [digit distance]
  else digit (t + (distance - t) % (36 - t)) :: digits bias (place + 1) ((distance - t) / (36 - t))
termination_by distance
decreasing_by
  have positive := threshold_pos bias place
  have smaller := Nat.div_le_self (distance - threshold bias place) (36 - threshold bias place)
  omega

/-- A label of which some code points are written: the output in reverse, and the last code point
written with the place behind it. -/
structure Writing where
  written : Text
  count : Nat
  code : Nat
  place : Nat
  bias : Nat

/-- Writes a code point that goes to `place` of a text of those written before. -/
def Writing.write (ascii : Nat) (w : Writing) (code place : Nat) : Writing :=
  let distance := (code - w.code) * (w.count + 1) + place - w.place
  ⟨(digits w.bias 0 distance).reverse ++ w.written, w.count + 1, code, place + 1,
    adapted distance (w.count + 1) (w.count == ascii)⟩

/-- How many of the code points are written before the one with number `code` behind them. -/
def placeOf (before : Text) (code : Nat) : Nat :=
  before.countP fun c => decide (c.val ≤ code)

def encode (label : Text) : Text :=
  let ascii := label.filter fun c => decide (c.val < 0x80)
  let others := (label.zipIdx.filter fun (c, _) => decide (0x80 ≤ c.val)).mergeSort
    fun a b => decide (a.1.val ≤ b.1.val)
  let written := others.foldl (fun (w : Writing) (c, i) =>
    w.write ascii.length c.val (placeOf (label.take i) c.val)) ⟨[], ascii.length, 0x80, 0, 72⟩
  ascii ++ (if ascii = [] then [] else [CodePoint.ofChar '-']) ++ written.written.reverse

/-- A label of which some digits are read: its text, the last code point with the place behind it,
and the distance at hand with the weight and the place of its next digit. -/
structure Reading where
  text : Text
  code : Nat
  place : Nat
  bias : Nat
  first : Bool
  distance : Nat
  weight : Nat
  digits : Nat

namespace Reading

/-- Puts the code point at the distance at hand into the text. -/
def insert? (r : Reading) : Option Reading := do
  let count := r.text.length + 1
  let moved := r.place + r.distance
  let code := r.code + moved / count
  let c ← CodePoint.ofNat? code
  some ⟨r.text.insertIdx (moved % count) c, code, moved % count + 1,
    adapted r.distance count r.first, false, 0, 1, 0⟩

def read? (r : Reading) (c : CodePoint) : Option Reading := do
  let d ← digit? c
  let t := threshold r.bias r.digits
  let r := { r with distance := r.distance + d * r.weight }
  if d < t then r.insert?
  else some { r with weight := r.weight * (36 - t), digits := r.digits + 1 }

end Reading

/-- The label that is written as a text, if any is. It is not all ASCII. -/
def decode? (t : Text) : Option Text := do
  let digits := (t.reverse.takeWhile (· ≠ CodePoint.ofChar '-')).reverse
  let ascii := t.take (t.length - digits.length - 1)
  let read ← digits.foldlM Reading.read? ⟨ascii, 0x80, 0, 72, true, 0, 1, 0⟩
  if digits = [] ∨ read.digits ≠ 0 ∨ (ascii = [] ∧ digits ≠ t) ∨
      ascii.any (fun c => decide (0x80 ≤ c.val)) then none
  else some read.text

end SqlTemplate.Punycode
