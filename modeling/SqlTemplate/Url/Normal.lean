import SqlTemplate.Url.Authority
import SqlTemplate.Url.Path

/-!
# Web addresses

An address is written in its normal form: the scheme and the host in lower case, no port number that
the scheme implies, at least `/` for a path, dot segments resolved, and code points that an address
must not hold as escaped bytes. An address of another scheme is refused as such only if it could be
read.
-/

namespace SqlTemplate.Url

inductive Scheme
  | web (usualPort : Nat)
  | file
  | other
  deriving DecidableEq

namespace Scheme

/-- The scheme of a name in lower case. -/
def ofName (name : Text) : Scheme :=
  if name = Text.ofString "http" ∨ name = Text.ofString "ws" then .web 80
  else if name = Text.ofString "https" ∨ name = Text.ofString "wss" then .web 443
  else if name = Text.ofString "ftp" then .web 21
  else if name = Text.ofString "file" then .file
  else .other

end Scheme

/-- The name of a scheme in lower case and what follows its colon. -/
def scheme? (t : Text) : Option (Text × Text) :=
  let name := t.takeWhile fun c => c.isAsciiLetter || c.isAsciiDigit || oneOf "+-." c
  match t.drop name.length with
  | [] => none
  | c :: rest =>
    if c = ':' ∧ name.head?.any CodePoint.isAsciiLetter then some (Text.asciiLower name, rest)
    else none

/-- The path, the query and the fragment of an address of the web. -/
def normalRest (t : Text) : Text :=
  let path := t.takeWhile fun c => !oneOf "?#" c
  let rest := t.drop path.length
  let query := rest.takeWhile (· ≠ CodePoint.ofChar '#')
  let fragment := rest.drop query.length
  normalPath path ++ escapeWhere " \"#<>'" query ++ fragment.take 1 ++
    escapeWhere " \"<>`" (fragment.drop 1)

/-- Reads the authority that a text begins with, and hands back what follows it. -/
def readAuthority (web : Bool) (t : Text) : Except UrlFlaw (Authority × Text) :=
  let authority := t.takeWhile fun c => !(oneOf "/?#" c || (web && c = '\\'))
  let rest := t.drop authority.length
  (Authority.ofText web (!rest.isEmpty) authority).map (·, rest)

/-- Whether the host behind `file:`, if there is one, can be read. -/
def checkFile (t : Text) : Except UrlFlaw Unit :=
  let slashes := (t.take 2).takeWhile isSlash
  let host := (t.drop 2).takeWhile fun c => !oneOf "/\\?#" c
  if slashes.length < 2 ∨ host = [] ∨ isDrive host then .ok ()
  else (Host.ofText true host).map fun _ => ()

/-- Whether an address of a scheme that does not follow the web can be read behind its colon. -/
def checkOther (t : Text) : Except UrlFlaw Unit :=
  match Text.after? "//" t with
  | none => .ok ()
  | some rest => (readAuthority false rest).map fun _ => ()

/-- The normal form of an address, if it can be read and its scheme is one of the two of pages. -/
def normal? (t : Text) : Except Invalid Text :=
  let flawed {α : Type} : Except UrlFlaw α → Except Invalid α := Except.mapError .badUrl
  let t := (t.trim fun c => decide (c.val ≤ 0x20)).filter fun c => !oneOf "\t\n\r" c
  match scheme? t with
  | none => .error (.badUrl .noScheme)
  | some (name, rest) =>
    match Scheme.ofName name with
    | .file => (flawed (checkFile rest)).bind fun _ => .error .badScheme
    | .other => (flawed (checkOther rest)).bind fun _ => .error .badScheme
    | .web usual =>
      (flawed (readAuthority true (rest.dropWhile isSlash))).bind fun (authority, rest) =>
        if name = Text.ofString "http" ∨ name = Text.ofString "https" then
          .ok (name ++ Text.ofString "://" ++ authority.text usual ++ normalRest rest)
        else .error .badScheme

end SqlTemplate.Url
