import SqlTemplate.Url.Ipv4

/-!
# Addresses of eight groups

An address has eight groups of up to four hexadecimal digits with colons between them. Two colons
stand for one or more groups of zeros, once. The last two groups may be written as four decimal
bytes.
-/

namespace SqlTemplate

structure Ipv6 where
  groups : List Nat
  deriving DecidableEq

namespace Ipv6

/-- A byte in decimal digits, without needless zeros. -/
def byte? (t : Text) : Option Nat :=
  if t = [] ∨ 3 < t.length ∨ (1 < t.length ∧ t.head? = some (CodePoint.ofChar '0')) then none
  else (Ipv4.digits? 10 t).filter (· < 256)

/-- The groups that a field between colons stands for: one, or two as four bytes. -/
def field? (isLast : Bool) (t : Text) : Option (List Nat) :=
  if isLast && t.contains (CodePoint.ofChar '.') then do
    match ← (Text.split (· = CodePoint.ofChar '.') t).mapM byte? with
    | [a, b, c, d] => some [256 * a + b, 256 * c + d]
    | _ => none
  else if t = [] ∨ 4 < t.length then none
  else (Ipv4.digits? 16 t).map ([·])

/-- The groups of fields, the last of which is the last of the address if `isEnd`. -/
def groups? (isEnd : Bool) : List Text → Option (List Nat)
  | [] => some []
  | t :: rest => do
    let here ← field? (isEnd && rest.isEmpty) t
    some (here ++ (← groups? isEnd rest))

/-- The fields of a text between single colons; two colons leave one empty field. -/
def fields? (t : Text) : Option (List Text) := do
  let fields := Text.split (· = CodePoint.ofChar ':') t
  let fields ← match fields with
    | [] :: [] :: rest => some ([] :: rest)
    | [] :: _ => none
    | _ => some fields
  match fields.reverse with
  | [] :: [] :: rest => some ([] :: rest).reverse
  | [] :: _ => none
  | _ => some fields

/-- The address that a text spells. -/
def ofText? (t : Text) : Option Ipv6 := do
  let fields ← fields? t
  let before := fields.takeWhile (· ≠ [])
  match fields.drop before.length with
  | [] =>
    let groups ← groups? true before
    if groups.length = 8 then some ⟨groups⟩ else none
  | _ :: behind =>
    let before ← groups? false before
    let behind ← groups? true behind
    let given := before.length + behind.length
    if given < 8 then some ⟨before ++ List.replicate (8 - given) 0 ++ behind⟩ else none

def groupText (n : Nat) : Text :=
  (Nat.toDigits 16 n).map CodePoint.ofChar

/-- The first longest run of zeros: where it begins, and its length. -/
def zeros (groups : List Nat) : Nat × Nat :=
  (List.range groups.length).foldl (fun (best : Nat × Nat) i =>
    let run := ((groups.drop i).takeWhile (· = 0)).length
    if best.2 < run then (i, run) else best) (0, 0)

/-- The first longest run of two or more zeros is left out. -/
def text (a : Ipv6) : Text :=
  let (start, length) := zeros a.groups
  let written (groups : List Nat) : Text := Text.join ":" (groups.map groupText)
  if length < 2 then written a.groups
  else written (a.groups.take start) ++ Text.ofString "::" ++
    written (a.groups.drop (start + length))

end Ipv6

end SqlTemplate
