import SqlTemplate.Text.CodePoint

/-!
# Refused input

Why a field of the settings or of a request body is refused, and the one line that reports all
refusals in the order of the fields.
-/

namespace SqlTemplate

inductive UrlFlaw
  | empty
  | noScheme
  | noHost
  | badPort
  | badIpv4
  | badIpv6
  | badName
  | badCharacter
  deriving DecidableEq

inductive Invalid
  | required
  | notAString
  | notUnicode
  | tooShort (least : Nat)
  | tooLong (most : Nat)
  | notAList
  | notAnObject
  | notAnInteger
  | unreadableInteger
  | oversizedInteger
  | fractional
  | notFinite
  | notAnEnvironment
  | notAUrl
  | badUrl (flaw : UrlFlaw)
  | badScheme
  | longUrl (most : Nat)
  | malformedJson
  deriving DecidableEq

def UrlFlaw.text : UrlFlaw → Text
  | .empty => "input is empty"
  | .noScheme => "relative URL without a base"
  | .noHost => "empty host"
  | .badPort => "invalid port number"
  | .badIpv4 => "invalid IPv4 address"
  | .badIpv6 => "invalid IPv6 address"
  | .badName => "invalid international domain name"
  | .badCharacter => "invalid domain character"

namespace Invalid

def characters (n : Nat) : Text :=
  Text.ofNat n ++ Text.ofString (if n = 1 then " character" else " characters")

def text : Invalid → Text
  | .required => "Field required"
  | .notAString => "Input should be a valid string"
  | .notUnicode => "Input should be a valid string, unable to parse raw data as a unicode string"
  | .tooShort least => Text.ofString "String should have at least " ++ characters least
  | .tooLong most => Text.ofString "String should have at most " ++ characters most
  | .notAList => "Input should be a valid list"
  | .notAnObject => "Input should be a valid dictionary or object to extract fields from"
  | .notAnInteger => "Input should be a valid integer"
  | .unreadableInteger => "Input should be a valid integer, unable to parse string as an integer"
  | .oversizedInteger => "Unable to parse input string as an integer, exceeded maximum size"
  | .fractional => "Input should be a valid integer, got a number with a fractional part"
  | .notFinite => "Input should be a finite number"
  | .notAnEnvironment => "Input should be 'local', 'staging' or 'production'"
  | .notAUrl => "URL input should be a string or URL"
  | .badUrl flaw => Text.ofString "Input should be a valid URL, " ++ flaw.text
  | .badScheme => "URL scheme should be 'http' or 'https'"
  | .longUrl most => Text.ofString "URL should have at most " ++ characters most
  | .malformedJson => "JSON decode error"

end Invalid

/-- A refusal and where it applies; no place means the whole input. -/
structure Refusal where
  place : Option Text
  reason : Invalid
  deriving DecidableEq

namespace Refusal

def text (r : Refusal) : Text :=
  match r.place with
  | none => r.reason.text
  | some place => place ++ Text.ofString ": " ++ r.reason.text

def summary (refusals : List Refusal) : Text :=
  Text.join "; " (refusals.map text)

end Refusal

end SqlTemplate
