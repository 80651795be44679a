import SqlTemplate.Template.Token

/-!
# What can go wrong

A query error is the caller's: the template and the arguments do not fit. A fault is everything else
that can end a call, such as an escape function, a connection or a conversion that fails.
-/

namespace SqlTemplate

/-- Why a value does not fit a placeholder. -/
inductive Mismatch
  | notANumber (typeName : Text)
  | nonFinite (shown : Text)
  | integerTooLarge
  | tooLargeForFloat (typeName : Text)
  | notAScalar (typeName : Text)
  | notAList (typeName : Text)
  | notAName (typeName : Text)
  | itemNotAName (typeName : Text)
  | keyNotAName (typeName : Text)
  | notUtf8
  | skipAsValue
  | skipOutsideBlock
  | element (reason : Mismatch)
  deriving DecidableEq

def Mismatch.text : Mismatch → Text
  | .notANumber typeName => Text.ofString "expected a number, got " ++ typeName
  | .nonFinite shown => Text.ofString "non-finite number " ++ shown
  | .integerTooLarge => "integer too large"
  | .tooLargeForFloat typeName => Text.ofString "number too large for a float: " ++ typeName
  | .notAScalar typeName =>
    Text.ofString "cannot render " ++ typeName ++ Text.ofString " as a scalar literal"
  | .notAList typeName => Text.ofString "expected a list, got " ++ typeName
  | .notAName typeName => Text.ofString "expected a string or list of strings, got " ++ typeName
  | .itemNotAName typeName =>
    Text.ofString "identifier list items must be strings, got " ++ typeName
  | .keyNotAName typeName => Text.ofString "mapping keys must be strings, got " ++ typeName
  | .notUtf8 => "bytes value is not valid UTF-8"
  | .skipAsValue => "skip signal cannot be rendered as a value"
  | .skipOutsideBlock => "skip signal bound to a placeholder outside a conditional block"
  | .element reason =>
    Text.ofString "invalid element: " ++ Token.any.text ++ Text.ofString ": " ++ reason.text

inductive QueryError
  | insufficientArguments (token : Token) (offset supplied : Nat)
  | typeMismatch (token : Token) (reason : Mismatch)
  | unknownPlaceholder (token : Token)
  deriving DecidableEq

namespace QueryError

def token : QueryError → Token
  | .insufficientArguments token .. => token
  | .typeMismatch token _ => token
  | .unknownPlaceholder token => token

def kind : QueryError → Text
  | .insufficientArguments .. => "insufficient_arguments"
  | .typeMismatch .. => "type_mismatch"
  | .unknownPlaceholder _ => "unknown_placeholder"

def message : QueryError → Text
  | .insufficientArguments token offset supplied =>
    Text.ofString "Insufficient arguments for query placeholders: " ++ token.text.quoted ++
      Text.ofString " at offset " ++ Text.ofNat offset ++ Text.ofString " has no value (" ++
      Text.ofNat supplied ++ Text.ofString " argument(s) supplied)"
  | .typeMismatch token reason => token.text ++ Text.ofString ": " ++ reason.text
  | .unknownPlaceholder token => Text.ofString "Unknown placeholder type: " ++ token.text.quoted

end QueryError

/-- The family of an error that a database client reports about a connection. -/
inductive ClientError
  | general
  | operational
  | interface
  deriving DecidableEq

inductive Fault
  | signalingNaN
  | outOfMemory
  | invalidQuote
  | noEscape
  | notIterable (typeName : Text)
  | unknownName (name : Text)
  | unencodable (surrogates : Text) (offset : Nat)
  | client (family : ClientError) (message : Text)
  | clientWarning (message : Text)
  | runtime (message : Text)
  deriving DecidableEq

namespace Fault

/-- The name under which a fault is reported. -/
def kind : Fault → Text
  | .signalingNaN | .invalidQuote | .noEscape => "ValueError"
  | .outOfMemory => "MemoryError"
  | .notIterable _ => "TypeError"
  | .unknownName _ => "KeyError"
  | .unencodable .. => "PydanticSerializationError"
  | .client .general _ => "Error"
  | .client .operational _ => "OperationalError"
  | .client .interface _ => "InterfaceError"
  | .clientWarning _ => "Warning"
  | .runtime _ => "RuntimeError"

def message : Fault → Text
  | .signalingNaN => "cannot convert signaling NaN to float"
  | .outOfMemory => ""
  | .invalidQuote => "identifier_quote must be a single character"
  | .noEscape => "connection does not provide escape_string()"
  | .notIterable typeName => typeName.quoted ++ Text.ofString " object is not iterable"
  | .unknownName name => name.quoted
  | .unencodable surrogates offset =>
    Text.ofString "Error serializing to JSON: UnicodeEncodeError: 'utf-8' codec can't encode " ++
      (match surrogates with
      | [c] => Text.ofString "character " ++ c.unicodeEscape.quoted ++
          Text.ofString " in position " ++ Text.ofNat offset
      | _ => Text.ofString "characters in position " ++ Text.ofNat offset ++ Text.ofString "-" ++
          Text.ofNat (offset + surrogates.length - 1)) ++
      Text.ofString ": surrogates not allowed"
  | .client _ message | .clientWarning message | .runtime message => message

end Fault

/-- How a call ends that gives no result. -/
inductive Failure
  | query (error : QueryError)
  | fault (cause : Fault)
  deriving DecidableEq

def Failure.message : Failure → Text
  | .query error => error.message
  | .fault cause => cause.message

end SqlTemplate
