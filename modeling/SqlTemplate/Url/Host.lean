import SqlTemplate.Domain.Name
import SqlTemplate.Url.Ipv6
import SqlTemplate.Url.Percent
import SqlTemplate.Validation

/-!
# Hosts

A host is an address in brackets, an address of four bytes, or a name. In schemes that do not
follow the web, a name is not interpreted.
-/

namespace SqlTemplate

inductive Host
  | ipv4 (a : Ipv4)
  | ipv6 (a : Ipv6)
  | name (t : Text)
  deriving DecidableEq

namespace Host

def text : Host → Text
  | .ipv4 a => a.text
  | .ipv6 a => CodePoint.ofChar '[' :: a.text ++ [CodePoint.ofChar ']']
  | .name t => t

/-- The address between brackets, of which the first is behind `t`. -/
def bracketed (t : Text) : Except UrlFlaw Host :=
  if t.getLast? = some (CodePoint.ofChar ']') then
    ((Ipv6.ofText? t.dropLast).map Host.ipv6).elim (.error .badIpv6) .ok
  else .error .badIpv6

/-- A name, with its escapes resolved and in ASCII, or the address that it spells. -/
def ofName (t : Text) : Except UrlFlaw Host :=
  match (Url.unescape? t).bind Domain.toAscii? with
  | none => .error .badName
  | some [] => .error .noHost
  | some domain =>
    if Ipv4.isMeant domain then ((Ipv4.ofText? domain).map Host.ipv4).elim (.error .badIpv4) .ok
    else .ok (.name domain)

/-- A name that is not interpreted. -/
def ofOpaque (t : Text) : Except UrlFlaw Host :=
  if t.any fun c => c.val = 0 || Url.oneOf "\t\n\r #/:<>?@[\\]^|" c then .error .badCharacter
  else .ok (.name (Url.escapeWhere "" t))

/-- The host that a text spells, in a scheme of the web or in another one. -/
def ofText (web : Bool) (t : Text) : Except UrlFlaw Host :=
  match t with
  | [] => if web then .error .noHost else .ok (.name [])
  | c :: rest =>
    if c = '[' then bracketed rest
    else if web then ofName t
    else ofOpaque t

end Host

end SqlTemplate
