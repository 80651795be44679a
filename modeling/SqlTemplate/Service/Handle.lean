import SqlTemplate.Connection
import SqlTemplate.Service.Body
import SqlTemplate.Service.Route
import SqlTemplate.Template.Warning

/-!
# The service

A request is answered with a status and, mostly, a JSON value. Compiling uses a database for the
time of the request, which is opened before the body is checked. A query error is the client's, any
fault an internal error, whose cause is shown in a development environment only.
-/

namespace SqlTemplate

structure Request where
  method : Text
  path : Text
  contentType : Option Text
  content : List UInt8

structure Response where
  status : Nat
  body : Option Json

structure Exchange where
  response : Response
  trace : Trace

namespace Response

def detail (status : Nat) (detail : Json) : Response :=
  ⟨status, some (.object [("detail", detail)])⟩

def message (status : Nat) (text : Text) : Response :=
  detail status (.string text)

def refused (refusals : List Refusal) : Response :=
  message 422 (Refusal.summary refusals)

def rejected (error : QueryError) : Response :=
  detail 400 (.object [("error", .string error.kind), ("message", .string error.message)])

def failed (environment : Environment) (cause : Fault) : Response :=
  message 500 (if environment = .development then
    Text.ofString "Internal server error: " ++ cause.message else "Internal server error")

end Response

namespace Service

/-- The first run of surrogates in a text, which cannot be sent. -/
def unencodable? (sql : Text) : Option Fault :=
  let before := sql.takeWhile (!CodePoint.isSurrogate ·)
  match (sql.drop before.length).takeWhile CodePoint.isSurrogate with
  | [] => none
  | surrogates => some (.unencodable surrogates before.length)

/-- Why a compilation is not answered with its SQL. -/
inductive Stop
  | refused (refusals : List Refusal)
  | failed (failure : Failure)

/-- Compiles the query of a body. -/
def compileBody (body : Body) (shared : Shared) (db : Database) : Except Stop Text × Trace :=
  match body.query with
  | .error refusals => (.error (.refused refusals), [])
  | .ok (template, args) =>
    let outcome := shared.build db template (Body.resolve args)
    let result : Except Stop Text :=
      match outcome.result with
      | .error failure => .error (.failed failure)
      | .ok sql =>
        match unencodable? sql with
        | some cause => .error (.failed (.fault cause))
        | none => .ok sql
    (result, Trace.ofJournal outcome.journal ++ [.build outcome.result])

def compile (client : Client) (settings : Settings) (path : Text) (body : Body) : Exchange :=
  let visit := client.visit settings (compileBody body)
  let failed (cause : Fault) : Response × Journal :=
    (.failed settings.environment cause, [.unhandled cause Endpoint.compile.handler path])
  let (response, journal) : Response × Journal :=
    match visit.result, visit.closing with
    | .ok (.ok sql), closing =>
      (⟨200, some (.object [("sql", .string sql)])⟩, closing.elim [] fun cause => (failed cause).2)
    | _, some cause => failed cause
    | .error cause, none => failed cause
    | .ok (.error (.refused refusals)), none => (.refused refusals, [])
    | .ok (.error (.failed (.query error))), none => (.rejected error, [.rejected path error])
    | .ok (.error (.failed (.fault cause))), none => failed cause
  ⟨response, visit.trace ++ Trace.ofJournal journal⟩

def warning (w : Warning) : Json :=
  .object [("kind", .string w.kind), ("position", .int w.offset), ("message", .string w.message)]

def inspect (body : Body) : Response :=
  match body.templateOnly with
  | .error refusals => .refused refusals
  | .ok template =>
    ⟨200, some (.object
      [("placeholders", .array ((Template.tokens template).map fun token => .string token.text)),
       ("warnings", .array ((Template.warnings template).map warning))])⟩

/-- Answers a request whose body has been read. -/
def answerBody (client : Client) (settings : Settings) (endpoint : Endpoint) (path : Text)
    (body : Body) : Exchange :=
  match body, endpoint with
  | .malformed offset, _ => ⟨.refused [⟨some (Text.ofNat offset), .malformedJson⟩], []⟩
  | .unreadable, _ => ⟨.message 400 "There was an error parsing the body", []⟩
  | body, .compile => compile client settings path body
  | body, _ => ⟨inspect body, []⟩

def answer (client : Client) (settings : Settings) (r : Request) : Exchange :=
  match Routing.find r.method r.path with
  | .nowhere => ⟨.message 404 "Not Found", []⟩
  | .wrongMethod => ⟨.message 405 "Method Not Allowed", []⟩
  | .redirect => ⟨⟨307, none⟩, []⟩
  | .to .page => ⟨⟨200, none⟩, []⟩
  | .to .liveness => ⟨⟨200, some (.bool true)⟩, []⟩
  | .to endpoint => answerBody client settings endpoint r.path (.read r.contentType r.content)

end Service

end SqlTemplate
