import SqlTemplate.Url.Percent

/-!
# Paths

A path is a list of segments. A segment of one dot stands for the directory itself and one of two
dots for its parent; a dot may be escaped. A drive letter has no parent.
-/

namespace SqlTemplate.Url

def isSlash (c : CodePoint) : Bool :=
  c = '/' || c = '\\'

/-- How many dots a segment consists of, plain or escaped. -/
def dots? : Text → Option Nat
  | [] => some 0
  | c :: rest =>
    if c = '.' then (dots? rest).map (· + 1)
    else
      match rest with
      | d :: e :: rest =>
        if c = '%' ∧ d = '2' ∧ (e = 'e' ∨ e = 'E') then (dots? rest).map (· + 1) else none
      | _ => none

/-- Whether a segment is a letter and a colon or a bar. -/
def isDrive : Text → Bool
  | [c, d] => c.isAsciiLetter && (d = ':' || d = '|')
  | _ => false

/-- The segments, the last one first, without the last one unless it is a drive letter. -/
def parent : List Text → List Text
  | [] => []
  | segment :: rest => if isDrive segment then segment :: rest else rest

/-- The segments with those of dots resolved; `done` holds the ones before in reverse. -/
def resolve (done : List Text) : List Text → List Text
  | [] => done.reverse
  | segment :: rest =>
    let ending := if rest.isEmpty then [[]] else []
    if dots? segment = some 1 then resolve (ending ++ done) rest
    else if dots? segment = some 2 then resolve (ending ++ parent done) rest
    else resolve (segment :: done) rest

/-- The path of an address of the web in its normal form. -/
def normalPath (t : Text) : Text :=
  let segments := Text.split isSlash (if t.head?.any isSlash then t.drop 1 else t)
  let escaped := segments.map (escapeWhere " \"#<>?`\x7b\x7d")
  (resolve [] escaped).flatMap (CodePoint.ofChar '/' :: ·)

end SqlTemplate.Url
