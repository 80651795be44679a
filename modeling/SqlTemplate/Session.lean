import SqlTemplate.Database

/-!
# Sessions

A run of commands over named databases and skip signals. Every command is answered, also a failing
one, which leaves the names and the last SQL as they are.
-/

namespace SqlTemplate

inductive Command
  | setQuote (quote : Text)
  | openDatabase (name : Text) (connection : Option Connection) (escape : Option Escape)
      (dialect : Option Dialect)
  | build (database template : Text) (args : List Value)
  | compile (template : Text) (args : List Value)
  | rebuild (database : Text) (args : List Value)
  | issueSkip (name : Text) (database : Option Text)
  | dropFormatter (token : Token)
  | restoreFormatters

inductive Answer
  | done
  | opened (result : Except Fault Database)
  | compiled (outcome : Outcome)
  | issued (result : Except Fault SkipSignal)
  | dropped (present : Bool)

structure Session where
  shared : Shared
  databases : List (Text × Database)
  signals : List (Text × SkipSignal)
  issued : Nat
  /-- The SQL of the last success. -/
  last : Text

namespace Session

def initial (quote : Text) : Session :=
  ⟨.initial quote, [], [], 0, []⟩

def database? (s : Session) (name : Text) : Except Fault Database :=
  match s.databases.find? fun d => decide (d.1 = name) with
  | some (_, db) => .ok db
  | none => .error (.unknownName name)

def signal? (s : Session) (name : Text) : Except Fault SkipSignal :=
  match s.signals.find? fun d => decide (d.1 = name) with
  | some (_, signal) => .ok signal
  | none => .error (.unknownName name)

/-- A signal that no one else has. -/
def freshSignal (s : Session) : SkipSignal × Session :=
  (⟨s.issued⟩, { s with issued := s.issued + 1 })

def remember (s : Session) (outcome : Outcome) : Session :=
  match outcome.result with
  | .ok sql => { s with last := sql }
  | .error _ => s

def build (s : Session) (name template : Text) (args : List Value) : Answer × Session :=
  match s.database? name with
  | .error cause => (.compiled (.fault cause), s)
  | .ok db =>
    let outcome := s.shared.build db template args
    (.compiled outcome, s.remember outcome)

def step (s : Session) : Command → Answer × Session
  | .setQuote quote => (.done, { s with shared := { s.shared with quote := quote } })
  | .openDatabase name connection escape dialect =>
    match s.shared.openDatabase connection escape dialect with
    | (.ok db, shared) =>
      (.opened (.ok db), { s with shared := shared, databases := (name, db) :: s.databases })
    | (.error cause, shared) => (.opened (.error cause), { s with shared := shared })
  | .build name template args => s.build name template args
  | .compile template args =>
    let (outcome, shared) := s.shared.compile template args
    (.compiled outcome, { s with shared := shared }.remember outcome)
  | .rebuild name args => s.build name s.last args
  | .issueSkip name database =>
    match database.elim (.ok ()) fun db => (s.database? db).map fun _ => () with
    | .error cause => (.issued (.error cause), s)
    | .ok () =>
      let (signal, s) := s.freshSignal
      (.issued (.ok signal), { s with signals := (name, signal) :: s.signals })
  | .dropFormatter token =>
    (.dropped (s.shared.formatters token).isSome,
      { s with shared := { s.shared with formatters := s.shared.formatters.without token } })
  | .restoreFormatters =>
    (.done, { s with shared := { s.shared with formatters := .standard } })

/-- The answers to a run of commands. -/
def run (s : Session) : List Command → List Answer × Session
  | [] => ([], s)
  | command :: rest =>
    let (answer, s) := s.step command
    let (answers, s) := run s rest
    (answer :: answers, s)

end Session

end SqlTemplate
