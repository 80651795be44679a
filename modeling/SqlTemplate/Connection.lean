import SqlTemplate.Database
import SqlTemplate.Settings.Basic
import SqlTemplate.Trace

/-!
# Connections

A request opens at most one connection, only if the settings name a host, and closes it exactly once
on every way out. Errors of the client while closing are logged and forgotten; any other fault of
closing is passed on.
-/

namespace SqlTemplate

/-- How the client of a server behaves: whether connecting fails, how strings are escaped, and
whether closing fails. -/
structure Client where
  refusal : Option Fault
  escape : Escape
  closing : Option Fault

/-- The connection that the settings ask for, if they name a host. -/
def Settings.target? (s : Settings) : Option Target :=
  match s.host with
  | none | some [] => none
  | some host => some ⟨host, s.portNumber, s.database, s.user, s.password, s.connectTimeout⟩

namespace Client

def connect (client : Client) (settings : Settings) : Except Fault (Option Connection) × Trace :=
  match settings.target? with
  | none => (.ok none, [])
  | some target =>
    let trace := [.log (.connecting target.host target.portNumber), .connect target]
    match client.refusal with
    | none => (.ok (some ⟨some client.escape⟩), trace)
    | some cause => (.error cause, trace)

/-- Closes a connection, if there is one; the fault is one to be passed on. -/
def close (client : Client) : Option Connection → Option Fault × Trace
  | none => (none, [])
  | some _ =>
    match client.closing with
    | none => (none, [.close])
    | some (.client ..) => (none, [.close, .log .closeFailed])
    | some cause => (some cause, [.close])

end Client

/-- What the use of a database in a request came to. `closing` is a fault of closing the connection
that is passed on; it takes the place of a failure that was on its way out. -/
structure Visit (α : Type) where
  result : Except Fault α
  closing : Option Fault
  trace : Trace

/-- Opens a connection and a database on it, uses the database, and closes the connection. -/
def Client.visit {α : Type} (client : Client) (settings : Settings)
    (use : Shared → Database → α × Trace) : Visit α :=
  match client.connect settings with
  | (.error cause, connecting) => ⟨.error cause, none, connecting⟩
  | (.ok connection, connecting) =>
    let (result, between) : Except Fault α × Trace :=
      match (Shared.initial settings.identifierQuote).openDatabase connection none none with
      | (.error cause, _) => (.error cause, [])
      | (.ok database, shared) =>
        let (a, trace) := use shared database
        (.ok a, trace)
    let (fault, closing) := client.close connection
    ⟨result, fault, connecting ++ between ++ closing⟩

/-- One query of a request: a template and its arguments. -/
abbrev Query := Text × List Value

/-- Builds queries one after the other; a failing one does not keep the next from being built. -/
def Shared.buildAll (s : Shared) (db : Database) (queries : List Query) : Trace :=
  queries.flatMap fun (template, args) =>
    let outcome := s.build db template args
    Trace.ofJournal outcome.journal ++ [.build outcome.result]

/-- A request that builds queries and then ends, normally or by `thrown`. -/
def Client.request (client : Client) (settings : Settings) (queries : List Query)
    (thrown : Option Fault) : Except Fault Unit × Trace :=
  let visit := client.visit settings fun shared db => ((), shared.buildAll db queries)
  let left : Except Fault Unit :=
    match visit.closing, visit.result, thrown with
    | some cause, _, _ => .error cause
    | none, .error cause, _ => .error cause
    | none, .ok _, some cause => .error cause
    | none, .ok _, none => .ok ()
  (left, visit.trace)

end SqlTemplate
