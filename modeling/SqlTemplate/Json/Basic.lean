import SqlTemplate.Number.Binary64
import SqlTemplate.Text.CodePoint

/-!
# JSON values

Integers and floats are different kinds of number, strings may hold surrogates that stand alone, and
the members of an object keep their order.
-/

namespace SqlTemplate

inductive Json
  | null
  | bool (b : Bool)
  | int (n : Int)
  | float (x : Binary64)
  | string (t : Text)
  | array (items : List Json)
  | object (members : List (Text × Json))

namespace Json

instance : Inhabited Json := ⟨.null⟩

/-- Sets a member. A name that is there already keeps its place and takes the new value. -/
def put (name : Text) (value : Json) : List (Text × Json) → List (Text × Json)
  | [] => [(name, value)]
  | (other, old) :: rest =>
    if other = name then (name, value) :: rest else (other, old) :: put name value rest

/-- An object from its members as they were written. -/
def ofMembers (members : List (Text × Json)) : Json :=
  .object (members.foldl (fun done (name, value) => put name value done) [])

/-- The value of a member of an object. -/
def member? (name : Text) : Json → Option Json
  | .object members => (members.find? fun m => decide (m.1 = name)).map (·.2)
  | _ => none

end Json

end SqlTemplate
