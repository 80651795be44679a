import SqlTemplate.Proofs.Rendering
import SqlTemplate.Connection

/-!
# The life of a connection

A request is a visit to a database: it connects, builds queries, ends in a result or an exception,
and closes its connection on every way out. `Visit.outcome` is what is seen of all this from
outside. Whatever happens in between, there is no connection without a host, and one that is opened
is closed once, behind everything that is built (`Client.visit_connections`).
-/

namespace SqlTemplate

namespace Trace

@[simp] theorem connections_append (a b : Trace) :
    connections (a ++ b) = a.connections ++ b.connections :=
  List.filter_append ..

@[simp] theorem builds_append (a b : Trace) : builds (a ++ b) = a.builds ++ b.builds :=
  List.filterMap_append ..

@[simp] theorem connections_ofJournal (entries : Journal) :
    (ofJournal entries).connections = [] := by
  simp [connections, ofJournal]

@[simp] theorem builds_ofJournal (entries : Journal) : (ofJournal entries).builds = [] := by
  simp [builds, ofJournal]

end Trace

namespace Shared

theorem result_build (s : Shared) (db : Database) (template : Text) (args : List Value) :
    (s.build db template args).result =
      (Template.compile s.formatters db.dialect template args).result := by
  rw [build]
  split
  · rfl
  · rfl

theorem buildAll_cons (s : Shared) (db : Database) (query : Query) (queries : List Query) :
    let outcome := s.build db query.1 query.2
    s.buildAll db (query :: queries) =
      Trace.ofJournal outcome.journal ++ [.build outcome.result] ++ s.buildAll db queries :=
  rfl

/-- Building neither opens nor closes a connection. -/
theorem connections_buildAll (s : Shared) (db : Database) (queries : List Query) :
    (s.buildAll db queries).connections = [] := by
  induction queries with
  | nil => rfl
  | cons query queries ih =>
    rw [buildAll_cons, Trace.connections_append, Trace.connections_append, ih,
      Trace.connections_ofJournal]
    rfl

/-- All queries are built, in order. -/
theorem builds_buildAll (s : Shared) (db : Database) (queries : List Query) :
    (s.buildAll db queries).builds = queries.map fun query =>
      (Template.compile s.formatters db.dialect query.1 query.2).result := by
  induction queries with
  | nil => rfl
  | cons query queries ih =>
    rw [buildAll_cons, Trace.builds_append, Trace.builds_append, ih, Trace.builds_ofJournal,
      result_build]
    rfl

end Shared

/-- Whether a fault is an error that the client reports about its connection. -/
def Fault.isClient : Fault → Bool
  | .client .. => true
  | _ => false

/-- What is seen of a visit whose use ends by itself in a result or an exception. -/
def Visit.outcome {α : Type} (visit : Visit (Except Failure α)) : Except Failure α :=
  match visit.closing, visit.result with
  | some cause, _ => .error (.fault cause)
  | none, .error cause => .error (.fault cause)
  | none, .ok ending => ending

namespace Shared

/-- A database on a connection escapes as the connection does, and one without a connection by
default; both take their quote from the setting. -/
theorem openDatabase_initial (quote : Text) {connection : Option Connection} {escape : Escape}
    (escapes : connection = none ∧ escape = Dialect.defaultEscape ∨
      connection = some ⟨some escape⟩) :
    ∃ shared : Shared, shared.formatters = .standard ∧
      (initial quote).openDatabase connection none none =
        ((Dialect.make escape quote).map fun d => ⟨d, connection.isSome⟩, shared) := by
  rcases escapes with ⟨rfl, rfl⟩ | rfl
  · cases made : Dialect.make Dialect.defaultEscape quote with
    | ok d =>
      refine ⟨⟨quote, some d, .standard⟩, rfl, ?_⟩
      simp [openDatabase, defaultDialect, initial, Dialect.forClient, made]
    | error cause =>
      refine ⟨initial quote, rfl, ?_⟩
      simp [openDatabase, defaultDialect, initial, Dialect.forClient, made]
  · exact ⟨initial quote, rfl, rfl⟩

end Shared

namespace Settings

/-- What a connection to a host is opened with. -/
def target (settings : Settings) (host : Text) : Target :=
  ⟨host, settings.portNumber, settings.database, settings.user, settings.password,
    settings.connectTimeout⟩

theorem target?_of_hostless {settings : Settings}
    (hostless : settings.host = none ∨ settings.host = some []) : settings.target? = none := by
  rcases hostless with absent | empty
  · simp [target?, absent]
  · simp [target?, empty]

theorem target?_of_host {settings : Settings} {host : Text} (hosted : settings.host = some host)
    (present : host ≠ []) : settings.target? = some (settings.target host) := by
  unfold target?
  split
  · next absent => simp [absent] at hosted
  · next empty => simp_all
  · next found =>
    obtain rfl := Option.some.inj (hosted.symm.trans found)
    rfl

end Settings

namespace Client

variable {α : Type} (client : Client) (settings : Settings) (queries : List Query)

/-- A visit that builds some queries and then ends in a result or an exception of any kind. -/
def visitQueries (ending : Except Failure α) : Visit (Except Failure α) :=
  client.visit settings fun shared db => (ending, shared.buildAll db queries)

/-- What the queries of a visit come to, if its database can be opened. -/
def built (escape : Escape) (quote : Text) : List (Except Failure Text) :=
  match quote with
  | [quote] => queries.map fun query =>
      (Template.compile .standard ⟨escape, quote⟩ query.1 query.2).result
  | _ => []

/-- How a visit ends that is not disturbed by its connection. -/
def undisturbed (quote : Text) (ending : Except Failure α) : Except Failure α :=
  match quote with
  | [_] => ending
  | _ => .error (.fault .invalidQuote)

theorem make_cases (escape : Escape) (quote : Text) (ending : Except Failure α) :
    (∃ c, Dialect.make escape quote = .ok ⟨escape, c⟩ ∧ undisturbed quote ending = ending ∧
      built queries escape quote = queries.map fun query =>
        (Template.compile .standard ⟨escape, c⟩ query.1 query.2).result) ∨
    ∃ cause, Dialect.make escape quote = .error cause ∧
      undisturbed quote ending = .error (.fault cause) ∧ built queries escape quote = [] := by
  match quote with
  | [] => exact .inr ⟨_, rfl, rfl, rfl⟩
  | [c] => exact .inl ⟨c, rfl, rfl, rfl⟩
  | _ :: _ :: _ => exact .inr ⟨_, rfl, rfl, rfl⟩

/-- With a host there is one attempt to connect to it, which the client may refuse. -/
theorem connect_of_host {host : Text} (hosted : settings.host = some host) (present : host ≠ []) :
    client.connect settings = (client.refusal.elim (.ok (some ⟨some client.escape⟩)) .error,
      [.log (.connecting host settings.portNumber), .connect (settings.target host)]) := by
  simp only [connect, Settings.target?_of_host hosted present]
  cases client.refusal <;> rfl

/-- Once connecting is over, a visit uses its database and closes the connection. -/
theorem visitQueries_of_connect (ending : Except Failure α) {connection : Option Connection}
    {connecting : Trace} (connected : client.connect settings = (.ok connection, connecting))
    {escape : Escape} (escapes : connection = none ∧ escape = Dialect.defaultEscape ∨
      connection = some ⟨some escape⟩) :
    ∃ between : Trace, between.connections = [] ∧
      between.builds = built queries escape settings.identifierQuote ∧
      (client.visitQueries settings queries ending).trace =
        connecting ++ between ++ (client.close connection).2 ∧
      (client.visitQueries settings queries ending).outcome =
        (client.close connection).1.elim (undisturbed settings.identifierQuote ending)
          fun cause => .error (.fault cause) := by
  obtain ⟨shared, standard, opened⟩ := Shared.openDatabase_initial settings.identifierQuote escapes
  rcases make_cases queries escape settings.identifierQuote ending with
    ⟨c, made, used, results⟩ | ⟨cause, made, used, results⟩ <;>
    simp only [visitQueries, visit, connected, opened, made, Except.map, Visit.outcome, used,
      results]
  · refine ⟨_, shared.connections_buildAll _ queries, ?_, rfl, ?_⟩
    · rw [Shared.builds_buildAll, standard]
    · cases (client.close connection).1 <;> rfl
  · refine ⟨[], rfl, rfl, rfl, ?_⟩
    cases (client.close connection).1 <;> rfl

theorem visitQueries_of_refusal (ending : Except Failure α) {cause : Fault} {connecting : Trace}
    (refused : client.connect settings = (.error cause, connecting)) :
    (client.visitQueries settings queries ending).trace = connecting ∧
      (client.visitQueries settings queries ending).outcome = .error (.fault cause) := by
  simp only [visitQueries, visit, refused, Visit.outcome, and_self]

/-- What is made of the result of a use has no influence on the visit. -/
theorem visit_map {α β : Type} (use : Shared → Database → α × Trace) (f : α → β) :
    client.visit settings (fun shared db => (f (use shared db).1, (use shared db).2)) =
      ⟨(client.visit settings use).result.map f, (client.visit settings use).closing,
        (client.visit settings use).trace⟩ := by
  rcases connected : client.connect settings with ⟨cause | connection, connecting⟩
  · simp only [visit, connected, Except.map]
  · rcases opened : (Shared.initial settings.identifierQuote).openDatabase connection none none with
      ⟨cause | db, shared⟩ <;> simp only [visit, connected, opened, Except.map]

/-- A request is such a visit. -/
theorem request_eq (thrown : Option Fault) :
    let visit := client.visitQueries settings queries
      (thrown.elim (.ok ()) fun cause => .error (.fault cause))
    (client.request settings queries thrown).1.mapError .fault = visit.outcome ∧
      (client.request settings queries thrown).2 = visit.trace := by
  intro visit
  have whole : visit = _ := visit_map client settings
    (fun shared db => ((), shared.buildAll db queries)) fun _ =>
      thrown.elim (Except.ok ()) fun cause => Except.error (Failure.fault cause)
  rw [whole]
  unfold Visit.outcome request
  simp only [and_true]
  cases (client.visit settings fun shared db => ((), shared.buildAll db queries)).closing with
  | some cause => rfl
  | none =>
    cases (client.visit settings fun shared db => ((), shared.buildAll db queries)).result with
    | error cause => rfl
    | ok => cases thrown <;> rfl

/-- Closing happens once; only what is no error of the client is passed on. -/
theorem close_some (connection : Connection) :
    ∃ after : Trace, (client.close (some connection)).2 = .close :: after ∧
      after.connections = [] ∧ after.builds = [] ∧
      (client.close (some connection)).1 = client.closing.filter (!·.isClient) := by
  obtain ⟨refusal, escape, closing⟩ := client
  cases closing with
  | none => exact ⟨[], rfl, rfl, rfl, rfl⟩
  | some cause =>
    cases cause with
    | client => exact ⟨[.log .closeFailed], rfl, rfl, rfl, rfl⟩
    | _ => exact ⟨[], rfl, rfl, rfl, rfl⟩

/-- **The life of a connection.** Without a host there is no connection. A connection that is
refused ends the request. One that is opened is closed exactly once, after all queries have been
built; an error that the client reports while closing changes nothing, and any other fault of
closing takes the place of the result or exception that the request would have ended in. -/
theorem visit_connections (ending : Except Failure α) :
    let visit := client.visitQueries settings queries ending
    let quote := settings.identifierQuote
    ((settings.host = none ∨ settings.host = some []) →
      visit.trace.connections = [] ∧ visit.outcome = undisturbed quote ending) ∧
    (∀ host, settings.host = some host → host ≠ [] →
      (∀ cause, client.refusal = some cause →
        visit.trace.connections = [.connect (settings.target host)] ∧ visit.trace.builds = [] ∧
          visit.outcome = .error (.fault cause)) ∧
      (client.refusal = none →
        visit.trace.connections = [.connect (settings.target host), .close] ∧
        (∃ before after : Trace, visit.trace = before ++ .close :: after ∧
          before.builds = built queries client.escape quote ∧ after.builds = []) ∧
        visit.outcome = match client.closing with
          | none => undisturbed quote ending
          | some cause => if cause.isClient then undisturbed quote ending
            else .error (.fault cause))) ∧
    ∀ thrown : Option Fault,
      let request := client.request settings queries thrown
      let visit := client.visitQueries settings queries
        (thrown.elim (.ok ()) fun cause => .error (.fault cause))
      request.1.mapError .fault = visit.outcome ∧ request.2 = visit.trace := by
  intro visit quote
  refine ⟨?_, ?_, request_eq client settings queries⟩
  · intro hostless
    have connected : client.connect settings = (.ok none, []) := by
      simp only [connect, Settings.target?_of_hostless hostless]
    obtain ⟨between, calm, -, trace, outcome⟩ := visitQueries_of_connect client settings queries
      ending connected (.inl ⟨rfl, rfl⟩)
    have unclosed : client.close none = (none, []) := rfl
    rw [unclosed] at trace outcome
    refine ⟨?_, outcome⟩
    rw [trace, List.nil_append, List.append_nil, calm]
  · intro host hosted present
    have connected := client.connect_of_host settings hosted present
    refine ⟨?_, ?_⟩
    · intro cause refused
      rw [refused] at connected
      obtain ⟨trace, outcome⟩ := visitQueries_of_refusal client settings queries ending connected
      exact ⟨by rw [trace]; rfl, by rw [trace]; rfl, outcome⟩
    · intro admitted
      rw [admitted] at connected
      obtain ⟨between, calm, results, trace, outcome⟩ := visitQueries_of_connect client settings
        queries ending connected (.inr rfl)
      obtain ⟨after, closed, silent, idle, passed⟩ := close_some client ⟨some client.escape⟩
      rw [closed] at trace
      refine ⟨?_, ⟨_, after, trace, ?_, idle⟩, ?_⟩
      · rw [trace, Trace.connections_append, Trace.connections_append, calm]
        simp only [Trace.connections] at silent ⊢
        simp [silent]
      · rw [Trace.builds_append, results]
        rfl
      · rw [outcome, passed]
        cases client.closing with
        | none => rfl
        | some cause => cases own : cause.isClient <;> simp [Option.filter, own, quote]

/-- An error of the client while closing does not hide the exception that the request ends in. -/
theorem visit_connections_gone :
    let settings := { Settings.default with host := some "db.local" }
    let client : Client := ⟨none, Dialect.defaultEscape, some (.client .operational "gone")⟩
    let thrown : Except Failure Unit := .error (.fault (.runtime "thrown"))
    let visit := client.visitQueries settings [("?", [.int 1])] thrown
    settings.host = some (Text.ofString "db.local") ∧ client.refusal = none ∧
      visit.trace.connections = [.connect (settings.target "db.local"), .close] ∧
      visit.outcome = thrown := by
  intro settings client thrown visit
  have present : Text.ofString "db.local" ≠ [] := by decide
  have hosted := (visit_connections client settings [("?", [.int 1])] thrown).2.1 _ rfl present
  obtain ⟨events, -, outcome⟩ := hosted.2 rfl
  exact ⟨rfl, rfl, events, outcome⟩

end Client

end SqlTemplate
