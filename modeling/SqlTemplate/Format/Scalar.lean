import SqlTemplate.Format.Number
import SqlTemplate.Text.Utf8

/-!
# Scalar literals

`?` writes a value by its own type: numbers bare, dates and texts as escaped string literals. A
container or a skip signal has no scalar literal.
-/

namespace SqlTemplate.Format

/-- The scalar literal of a value, or why it has none. -/
def scalar? : Value → Except Mismatch Draft
  | .null => .ok (.sql nullText)
  | .bool b => .ok (.sql (if b then "1" else "0"))
  | .int n => (integerText n).map .sql
  | .float x => if x.isFinite then .ok (.sql x.text) else .error (nonFiniteFloat x)
  | .decimal d => if d.isFinite then .ok (.sql d.text) else .error (nonFiniteDecimal d)
  | .text t => .ok (.string t)
  | .bytes _ content =>
    match Utf8.decode? content with
    | some t => .ok (.string t)
    | none => .error .notUtf8
  | .date d => .ok (.string d.text)
  | .dateTime d => .ok (.string d.text)
  | .time t => .ok (.string t.text)
  | .object _ shown => .ok (.string shown)
  | .skip _ => .error .skipAsValue
  | v => .error (.notAScalar v.typeName)

def scalar (v : Value) : Draft :=
  match scalar? v with
  | .ok draft => draft
  | .error reason => .mismatch .any reason

end SqlTemplate.Format
