import SqlTemplate.Url.Host

/-!
# Authorities

The authority of an address names a user, a host and a port number. The last `@` ends the user, and
a colon outside of brackets ends the host.
-/

namespace SqlTemplate

structure Authority where
  user : Text
  password : Text
  host : Host
  portNumber : Option Nat

namespace Authority

/-- The length of the host that a text begins with. -/
def hostLength (inBrackets : Bool) : Text → Nat
  | [] => 0
  | c :: rest =>
    if c = ':' ∧ !inBrackets then 0
    else hostLength (if c = '[' then true else if c = ']' then false else inBrackets) rest + 1

/-- The number behind a colon. No digits leave the number open; a backslash ends it in every
scheme. -/
def readPort (t : Text) : Except UrlFlaw (Option Nat) :=
  let t := t.takeWhile (· ≠ CodePoint.ofChar '\\')
  let n := t.foldl (fun n c => 10 * n + (c.val - 0x30)) 0
  if t.any (!CodePoint.isAsciiDigit ·) || 65535 < n then .error .badPort
  else .ok (if t = [] then none else some n)

/-- Reads an authority in a scheme of the web or in another one; `ended` tells whether the address
goes on behind it. A user needs a host, and so does a port number. -/
def ofText (web ended : Bool) (t : Text) : Except UrlFlaw Authority := do
  let place := (t.reverse.takeWhile (· ≠ CodePoint.ofChar '@')).reverse
  let login := t.take (t.length - place.length - 1)
  let user := login.takeWhile (· ≠ CodePoint.ofChar ':')
  let password := login.drop (user.length + 1)
  let length := hostLength false place
  let host ← Host.ofText web (place.take length)
  let behind := place.drop length
  let nameless := place.length < t.length && login = [] && ended
  if host = .name [] ∧ (nameless ∨ behind ≠ [] ∨ user ≠ [] ∨ password ≠ []) then .error .noHost
  else
    return ⟨user, password, host, ← readPort (behind.drop 1)⟩

/-- What a user and a password may not hold unescaped. -/
def escapeLogin (t : Text) : Text :=
  Url.escapeWhere " \"#<>?`\x7b\x7d/:;=@[\\]^|" t

/-- The authority in its normal form, without the port number that is `usual`. -/
def text (usual : Nat) (a : Authority) : Text :=
  let password :=
    if a.password = [] then [] else CodePoint.ofChar ':' :: escapeLogin a.password
  let login := escapeLogin a.user ++ password
  let portText := match a.portNumber with
    | none => []
    | some n => if n = usual then [] else CodePoint.ofChar ':' :: Text.ofNat n
  (if login = [] then [] else login ++ [CodePoint.ofChar '@']) ++ a.host.text ++ portText

end Authority

end SqlTemplate
