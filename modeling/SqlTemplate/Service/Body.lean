import SqlTemplate.Json.Check
import SqlTemplate.Json.Encoding
import SqlTemplate.Json.Parser
import SqlTemplate.Value.Basic

/-!
# Request bodies

A body is JSON if its content type says so; any other body is bytes, which no endpoint accepts. In
the arguments of a query, an object whose only member is `$skip` with the value true is a skip
signal.
-/

namespace SqlTemplate

inductive Body
  | absent
  | bytes
  | json (j : Json)
  | malformed (offset : Nat)
  | unreadable

namespace Body

/-- Whether a content type is JSON: `application/json` or `application/` with a `+json` suffix,
whatever its case and parameters. -/
def isJson (contentType : Text) : Bool :=
  let main := contentType.takeWhile (· ≠ CodePoint.ofChar ';')
  let main := Text.asciiLower (Text.trim CodePoint.isBlank main)
  match Text.after? "application/" main with
  | none => false
  | some subtype =>
    subtype.all (· ≠ CodePoint.ofChar '/') &&
      (decide (subtype = Text.ofString "json") ||
        (Text.after? (Text.ofString "+json").reverse subtype.reverse).isSome)

/-- An integer is at most as long as a numeral may be, and containers are at most 965 deep. -/
def limits : JsonLimits := ⟨integerDigits, 965⟩

/-- What the bytes of a body are under a content type. -/
def read (contentType : Option Text) (content : List UInt8) : Body :=
  if content = [] then .absent
  else if contentType.any isJson then
    let (encoding, content) := Encoding.detect content
    match encoding.decode? content with
    | none => .unreadable
    | some text =>
      match Json.parse limits text with
      | .ok .null => .absent
      | .ok j => .json j
      | .error (.malformed offset) => .malformed offset
      | .error _ => .unreadable
  else .bytes

/-- The most code points of a template. -/
def templateLimit : Nat := 65536

def checkTemplate (j : Json) : Except Invalid Text := do
  let t ← j.checkText
  if t = [] then .error (.tooShort 1)
  else if templateLimit < t.length then .error (.tooLong templateLimit)
  else .ok t

def checkList : Json → Except Invalid (List Json)
  | .array items => .ok items
  | _ => .error .notAList

/-- The value of a member, which `missing` stands for if there is none. -/
def checkMember {α : Type} (name : String) (missing : Except Invalid α)
    (check : Json → Except Invalid α) (j : Json) : Except Refusal α :=
  match (j.member? name).elim missing check with
  | .ok a => .ok a
  | .error reason => .error ⟨some name, reason⟩

/-- The members of the object that a body has to be. -/
def object : Body → Except Refusal Json
  | .json (.object members) => .ok (.object members)
  | .absent => .error ⟨none, .required⟩
  | _ => .error ⟨none, .notAnObject⟩

/-- The template of a body. -/
def template (j : Json) : Except Refusal Text :=
  checkMember "template" (.error .required) checkTemplate j

/-- The arguments of a body, none if they are not given. -/
def arguments (j : Json) : Except Refusal (List Json) :=
  checkMember "args" (.ok []) checkList j

/-- Both parts of a query, or the refusals of those that do not pass. -/
def query (b : Body) : Except (List Refusal) (Text × List Json) :=
  match b.object with
  | .error refusal => .error [refusal]
  | .ok j =>
    match template j, arguments j with
    | .ok t, .ok args => .ok (t, args)
    | .error a, .error b => .error [a, b]
    | .error a, .ok _ => .error [a]
    | .ok _, .error b => .error [b]

/-- The template alone. -/
def templateOnly (b : Body) : Except (List Refusal) Text :=
  match b.object.bind template with
  | .ok t => .ok t
  | .error refusal => .error [refusal]

mutual

/-- A JSON value as an argument. -/
def value : Json → Value
  | .null => .null
  | .bool b => .bool b
  | .int n => .int n
  | .float x => .float x
  | .string t => .text t
  | .array items => .list (values items)
  | .object members => .mapping .plain (entries members)

def values : List Json → List Value
  | [] => []
  | item :: rest => value item :: values rest

def entries : List (Text × Json) → List (Value × Value)
  | [] => []
  | (name, item) :: rest => (.text name, value item) :: entries rest

end

/-- Whether an argument stands for a skip signal. -/
def isSkipMarker : Json → Bool
  | .object [(name, .bool true)] => name = Text.ofString "$skip"
  | _ => false

/-- The arguments of a query; each marker becomes a signal of its own. -/
def resolve (args : List Json) : List Value :=
  args.zipIdx.map fun (j, i) => if isSkipMarker j then .skip ⟨i⟩ else value j

end Body

end SqlTemplate
