import SqlTemplate.Journal

/-!
# Traces

What happens in a request, in order: opening and closing a connection, the queries built in between,
and the lines logged.
-/

namespace SqlTemplate

/-- What a connection is opened with. -/
structure Target where
  host : Text
  portNumber : Int
  database : Option Text
  user : Text
  password : Text
  connectTimeout : Int
  deriving DecidableEq

inductive Event
  | connect (target : Target)
  | build (result : Except Failure Text)
  | log (entry : Entry)
  | close

abbrev Trace := List Event

namespace Trace

def ofJournal (entries : Journal) : Trace :=
  entries.map .log

/-- The lines logged. -/
def journal (t : Trace) : Journal :=
  t.filterMap fun
    | .log entry => some entry
    | _ => none

/-- The results of the queries built. -/
def builds (t : Trace) : List (Except Failure Text) :=
  t.filterMap fun
    | .build result => some result
    | _ => none

/-- The events of the connection alone. -/
def connections (t : Trace) : Trace :=
  t.filter fun
    | .connect _ | .close => true
    | _ => false

end Trace

end SqlTemplate
