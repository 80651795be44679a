import SqlTemplate.Domain.CompositionTable

/-!
# Canonical composition

Texts that look alike are written alike: every code point is taken apart as far as possible, marks
are put into the order of their classes, and then what can be composed is composed. Syllables of
Hangul are composed by arithmetic.
-/

namespace SqlTemplate.Domain

/-- The combining class of a code point. -/
def combiningClass (c : CodePoint) : Nat :=
  (combining.findSome? fun
    | [first, last, k] => if first ≤ c.val ∧ c.val ≤ last then some k else none
    | _ => none).getD 0

/-- The numbers of the jamo that a syllable of Hangul consists of. -/
def hangulParts? (n : Nat) : Option (List Nat) :=
  if 0xAC00 ≤ n ∧ n ≤ 0xD7A3 then
    let i := n - 0xAC00
    let trailing := if i % 28 = 0 then [] else [0x11A7 + i % 28]
    some ([0x1100 + i / 588, 0x1161 + i % 588 / 28] ++ trailing)
  else none

/-- The number of the syllable that a first jamo or an open syllable makes with the next jamo. -/
def hangulSyllable? (a b : Nat) : Option Nat :=
  if 0x1100 ≤ a ∧ a ≤ 0x1112 ∧ 0x1161 ≤ b ∧ b ≤ 0x1175 then
    some (0xAC00 + ((a - 0x1100) * 21 + (b - 0x1161)) * 28)
  else if 0xAC00 ≤ a ∧ a ≤ 0xD7A3 ∧ (a - 0xAC00) % 28 = 0 ∧ 0x11A8 ≤ b ∧ b ≤ 0x11C2 then
    some (a + (b - 0x11A7))
  else none

/-- Takes a code point apart. No code point needs more than four steps. -/
def partsOf : Nat → Nat → List Nat
  | 0, n => [n]
  | fuel + 1, n =>
    match hangulParts? n with
    | some parts => parts
    | none =>
      let pair? : List Nat → Option (Nat × Nat)
        | [composite, a, b] => if composite = n then some (a, b) else none
        | _ => none
      match compositions.findSome? pair? with
      | some (a, b) => partsOf fuel a ++ [b]
      | none => [n]

def parts (t : Text) : Text :=
  t.flatMap fun c => (partsOf 4 c.val).filterMap CodePoint.ofNat?

/-- Puts a mark in front of marks in order, ahead of those of a higher class. -/
def insertMark (c : CodePoint) : Text → Text
  | [] => [c]
  | d :: rest =>
    if combiningClass d ≠ 0 ∧ combiningClass d < combiningClass c then d :: insertMark c rest
    else c :: d :: rest

/-- A text with its marks in the order of their classes. -/
def inOrder (t : Text) : Text :=
  t.foldr insertMark []

def composite? (a b : CodePoint) : Option CodePoint :=
  let pair? : List Nat → Option Nat
    | [composite, first, second] =>
      if first = a.val ∧ second = b.val then some composite else none
    | _ => none
  (hangulSyllable? a.val b.val <|> compositions.findSome? pair?).bind CodePoint.ofNat?

/-- A text composed so far: what is finished in reverse, the last code point that marks may join,
and what stands behind it in reverse. -/
structure Composing where
  finished : Text
  starter : Option CodePoint
  behind : Text

namespace Composing

/-- The text so far, in reverse. -/
def reversed (s : Composing) : Text :=
  s.behind ++ s.starter.toList ++ s.finished

/-- Adds a code point, which joins the starter unless something between them keeps it away. -/
def add (s : Composing) (c : CodePoint) : Composing :=
  let free := s.behind.head?.all fun last => combiningClass last < combiningClass c
  match if free then s.starter.bind (composite? · c) else none with
  | some composite => { s with starter := some composite }
  | none =>
    if combiningClass c = 0 then ⟨s.reversed, some c, []⟩ else { s with behind := c :: s.behind }

end Composing

/-- The canonical composition of a text. -/
def composed (t : Text) : Text :=
  ((inOrder (parts t)).foldl Composing.add ⟨[], none, []⟩).reversed.reverse

end SqlTemplate.Domain
