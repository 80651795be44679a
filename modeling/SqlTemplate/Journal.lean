import SqlTemplate.Error

/-!
# The journal

Log entries, kept as what happened; their level and wording are derived from that.
-/

namespace SqlTemplate

inductive Level
  | debug
  | info
  | warning
  | error
  deriving DecidableEq

def Level.text : Level → Text
  | .debug => "DEBUG"
  | .info => "INFO"
  | .warning => "WARNING"
  | .error => "ERROR"

/-- What is worth a line in the log. -/
inductive Entry
  | surplus (count : Nat)
  | built (length : Nat)
  | connecting (host : Text) (portNumber : Int)
  | closeFailed
  | rejected (path : Text) (error : QueryError)
  | unhandled (cause : Fault) (handler path : Text)
  deriving DecidableEq

abbrev Journal := List Entry

namespace Entry

def level : Entry → Level
  | .surplus _ | .built _ => .debug
  | .connecting .. | .rejected .. => .info
  | .closeFailed => .warning
  | .unhandled .. => .error

def message : Entry → Text
  | .surplus count =>
    Text.ofString "Ignored " ++ Text.ofNat count ++ Text.ofString " trailing argument(s)"
  | .built length =>
    Text.ofString "Built query from template of " ++ Text.ofNat length ++ Text.ofString " chars"
  | .connecting host portNumber =>
    Text.ofString "Connecting to MySQL at " ++ host ++ Text.ofString ":" ++ Text.ofInt portNumber
  | .closeFailed => "Error closing MySQL connection"
  | .rejected path error =>
    Text.ofString "Template compile failed on " ++ path ++ Text.ofString ": " ++ error.message
  | .unhandled cause handler path =>
    Text.ofString "Unhandled " ++ cause.kind ++ Text.ofString " in " ++ handler ++
      Text.ofString " (" ++ path ++ Text.ofString ")"

end Entry

end SqlTemplate
