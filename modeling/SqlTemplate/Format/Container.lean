import SqlTemplate.Format.Scalar

/-!
# Names and lists

`?#` writes one name or a list of names, and `?a` the scalar literals of a list or, for a mapping,
an assignment for each of its pairs. Items are separated by a comma; the first one that does not fit
decides the failure.
-/

namespace SqlTemplate.Format

def nameItem : Value → Draft
  | .text t => .name t
  | v => .mismatch .name (.itemNotAName v.typeName)

def name : Value → Draft
  | .text t => .name t
  | .list items | .tuple items => .commaSeparated (items.map nameItem)
  | v => .mismatch .name (.notAName v.typeName)

def element (v : Value) : Draft :=
  match scalar? v with
  | .ok draft => draft
  | .error reason => .mismatch .list (.element reason)

/-- `` `key` = value `` for a pair of a mapping. -/
def assignment : Value × Value → Draft
  | (.text key, v) => Draft.name key ++ (Draft.sql " = " ++ element v)
  | (key, _) => .mismatch .list (.keyNotAName key.typeName)

def list : Value → Draft
  | .mapping _ entries => .commaSeparated (entries.map assignment)
  | .list items | .tuple items => .commaSeparated (items.map element)
  | v => .mismatch .list (.notAList v.typeName)

end SqlTemplate.Format
