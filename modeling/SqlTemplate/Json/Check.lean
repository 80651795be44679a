import SqlTemplate.Json.Basic
import SqlTemplate.Validation

/-!
# Checks of JSON values

A check either yields what a JSON value stands for or says why the value is invalid.
-/

namespace SqlTemplate.Json

/-- A string that can be encoded, so one without surrogates. -/
def checkText : Json → Except Invalid Text
  | .string t => if t.any CodePoint.isSurrogate then .error .notUnicode else .ok t
  | _ => .error .notAString

end SqlTemplate.Json
