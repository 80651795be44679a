import SqlTemplate.Calendar
import SqlTemplate.Number.Decimal

/-!
# Arguments

The values a caller can bind to a placeholder. A skip signal stands for no value: two signals are
the same only if they were issued as one.
-/

namespace SqlTemplate

structure SkipSignal where
  id : Nat
  deriving DecidableEq

inductive MappingKind
  | plain
  | ordered
  | readOnly
  deriving DecidableEq

inductive Value
  | null
  | bool (b : Bool)
  | int (n : Int)
  | float (x : Binary64)
  | decimal (d : Decimal)
  | text (t : Text)
  | bytes (mutable : Bool) (content : List UInt8)
  | date (d : Date)
  | dateTime (d : DateTime)
  | time (t : TimeOfDay)
  | list (items : List Value)
  | tuple (items : List Value)
  | set (frozen : Bool) (items : List Value)
  | mapping (kind : MappingKind) (entries : List (Value × Value))
  | skip (signal : SkipSignal)
  | object (typeName shown : Text)

namespace Value

instance : Inhabited Value := ⟨.null⟩

/-- The name of a value's type, as error messages give it. -/
def typeName : Value → Text
  | .null => "NoneType"
  | .bool _ => "bool"
  | .int _ => "int"
  | .float _ => "float"
  | .decimal _ => "Decimal"
  | .text _ => "str"
  | .bytes false _ => "bytes"
  | .bytes true _ => "bytearray"
  | .date _ => "date"
  | .dateTime _ => "datetime"
  | .time _ => "time"
  | .list _ => "list"
  | .tuple _ => "tuple"
  | .set false _ => "set"
  | .set true _ => "frozenset"
  | .mapping .plain _ => "dict"
  | .mapping .ordered _ => "OrderedDict"
  | .mapping .readOnly _ => "mappingproxy"
  | .skip _ => "SkipSignal"
  | .object typeName _ => typeName

def isSkip : Value → Bool
  | .skip _ => true
  | _ => false

theorem isSkip_eq_true_iff {v : Value} : v.isSkip = true ↔ ∃ signal, v = .skip signal := by
  cases v <;> simp [isSkip]

def containsSkip (values : List Value) : Bool :=
  values.any isSkip

theorem containsSkip_iff {values : List Value} :
    containsSkip values = true ↔ ∃ signal, .skip signal ∈ values := by
  rw [containsSkip, List.any_eq_true]
  constructor
  · rintro ⟨v, mem, skip⟩
    obtain ⟨signal, rfl⟩ := isSkip_eq_true_iff.mp skip
    exact ⟨signal, mem⟩
  · rintro ⟨signal, mem⟩
    exact ⟨.skip signal, mem, rfl⟩

/-- What a value yields when it is iterated: the items of a container, the keys of a mapping, the
code points of a text and the bytes of a byte string. -/
def elements? : Value → Option (List Value)
  | .list items | .tuple items | .set _ items => some items
  | .mapping _ entries => some (entries.map (·.1))
  | .text t => some (t.map fun c => .text [c])
  | .bytes _ content => some (content.map fun b => .int b.toNat)
  | _ => none

end Value

end SqlTemplate
