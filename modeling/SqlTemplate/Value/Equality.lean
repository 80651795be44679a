import SqlTemplate.Value.Basic

/-!
# Equality of values

Numbers are equal if their values are, whatever their kind; a NaN equals nothing. Containers are
equal if their items are, sets and mappings in any order unless both mappings are ordered ones. A
skip signal equals only itself.
-/

namespace SqlTemplate

/-- The value of a number, where it has one. -/
inductive Magnitude
  | finite (x : Rat)
  | infinite (negative : Bool)
  deriving DecidableEq

namespace Value

def magnitude? : Value → Option Magnitude
  | .bool b => some (.finite (b.toInt : Rat))
  | .int n => some (.finite n)
  | .float (.infinity negative) | .decimal (.infinity negative) => some (.infinite negative)
  | .float x => x.value?.map .finite
  | .decimal d => d.value?.map .finite
  | _ => none

mutual

def same : Value → Value → Bool
  | .null, .null => true
  | .text a, .text b => a = b
  | .bytes _ a, .bytes _ b => a = b
  | .date a, .date b => a = b
  | .dateTime a, .dateTime b => a = b
  | .time a, .time b => a = b
  | .list a, .list b => sameItems a b
  | .tuple a, .tuple b => sameItems a b
  | .set _ a, .set _ b => a.length = b.length && allIn a b
  | .mapping .ordered a, .mapping .ordered b => sameEntries a b
  | .mapping _ a, .mapping _ b => a.length = b.length && allEntriesIn a b
  | .skip a, .skip b => a = b
  | a, b =>
    match magnitude? a, magnitude? b with
    | some a, some b => a = b
    | _, _ => false

def sameItems : List Value → List Value → Bool
  | [], [] => true
  | a :: rest, b :: others => same a b && sameItems rest others
  | _, _ => false

/-- Whether each of the values is among the others. -/
def allIn : List Value → List Value → Bool
  | [], _ => true
  | a :: rest, others => others.any (fun b => same a b) && allIn rest others

def sameEntries : List (Value × Value) → List (Value × Value) → Bool
  | [], [] => true
  | (k, v) :: rest, (k', v') :: others => same k k' && same v v' && sameEntries rest others
  | _, _ => false

def allEntriesIn : List (Value × Value) → List (Value × Value) → Bool
  | [], _ => true
  | (k, v) :: rest, others =>
    others.any (fun (k', v') => same k k' && same v v') && allEntriesIn rest others

end

/-- Sets an entry. A key that is there already keeps its place and takes the new value. -/
def put (key value : Value) : List (Value × Value) → List (Value × Value)
  | [] => [(key, value)]
  | (other, old) :: rest =>
    if same other key then (other, value) :: rest else (other, old) :: put key value rest

/-- A mapping from its entries as they were given. -/
def mappingOf (kind : MappingKind) (entries : List (Value × Value)) : Value :=
  .mapping kind (entries.foldl (fun done (key, value) => put key value done) [])

end Value

end SqlTemplate
