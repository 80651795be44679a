import SqlTemplate.Proofs.Endpoint
import SqlTemplate.Proofs.Faults

/-!
# The status of a response

Whatever the bytes of a request for a query are, without a host it is refused as unreadable or
invalid, rejected for its query, or answered with the query that its compilation gives. The one
query that cannot be sent is one with a surrogate (`Service.status_answer`). The template of a
request has none, so that it takes one in an argument, or an identifier quote that is one.
-/

namespace SqlTemplate

namespace Body

variable {body : Body} {template : Text} {args : List Json}

theorem plain_of_checkTemplate {j : Json} (passed : checkTemplate j = .ok template) :
    ∀ c ∈ template, c.isSurrogate = false := by
  cases j with
  | string t =>
    by_cases lone : t.any CodePoint.isSurrogate = true
    · simp [checkTemplate, Json.checkText, lone, bind, Except.bind] at passed
    · have plain : ∀ c ∈ t, c.isSurrogate = false := by simpa using lone
      have same : t = template := by
        simp only [checkTemplate, Json.checkText, lone, bind, Except.bind] at passed
        grind
      exact same ▸ plain
  | _ => cases passed

/-- A body that passes its checks has a template without surrogates. -/
theorem plain_of_query_eq_ok (asked : body.query = .ok (template, args)) :
    ∀ c ∈ template, c.isSurrogate = false := by
  unfold query at asked
  split at asked
  · cases asked
  next j object =>
    split at asked <;> cases asked
    next checked _ =>
      unfold Body.template checkMember at checked
      cases found : j.member? "template" with
      | none => simp [found] at checked
      | some item =>
        simp only [found, Option.elim_some] at checked
        split at checked <;> cases checked
        next passed => exact plain_of_checkTemplate passed

/-- Only a decimal can fail to convert, and no JSON value is one, so that a compilation for a
request has no fault. -/
theorem compile_resolve_ne_fault (quote : CodePoint) (cause : Fault) :
    (Template.compile .standard ⟨Dialect.defaultEscape, quote⟩ template (resolve args)).result ≠
      .error (.fault cause) := by
  intro failed
  obtain ⟨i, slot, memory, kind, v, -, -, at_i, faulty, -⟩ :=
    (Template.compile_fault_iff FormatterTable.known_standard Dialect.defaultEscape_total
      cause).mp failed
  rw [getElem?_resolve] at at_i
  obtain ⟨j, -, rfl⟩ := Option.map_eq_some_iff.mp at_i
  split at faulty
  · cases faulty
  · cases j <;> simp only [value] at faulty <;> cases faulty

end Body

namespace Service

/-- What the query of a body compiles to, under the dialect of a request without a connection. -/
def compiled (quote : CodePoint) (query : Text × List Json) : Except Failure Text :=
  (Template.compile .standard ⟨Dialect.defaultEscape, quote⟩ query.1 (Body.resolve query.2)).result

/-- The answer to a body that was read. -/
def replyQuery (environment : Environment) (quote : CodePoint) (body : Body) : Response :=
  match body.query with
  | .error refusals => .refused refusals
  | .ok query => reply environment (compiled quote query)

/-- The answer to a body that was sent for a query. -/
def replyBody (environment : Environment) (quote : CodePoint) : Body → Response
  | .malformed offset => .refused [⟨some (Text.ofNat offset), .malformedJson⟩]
  | .unreadable => .message 400 "There was an error parsing the body"
  | body => replyQuery environment quote body

section
variable (client : Client) {settings : Settings} {quote : CodePoint}
  (hostless : settings.host = none ∨ settings.host = some [])
  (single : settings.identifierQuote = [quote])
include hostless single

theorem response_compile_body (path : Text) (body : Body) :
    (compile client settings path body).response =
      replyQuery settings.environment quote body := by
  cases asked : body.query with
  | ok query =>
    rw [response_compile client hostless single path asked, replyQuery, asked]
    rfl
  | error refusals =>
    simp only [compile, Client.visit_hostless client hostless single, compileBody, replyQuery,
      asked]

/-- A request for a query is answered as its body asks. -/
theorem response_answer_body {request : Request} (posted : request.method = Text.ofString "POST")
    (routed : request.path = Text.ofString "/api/v1/queries/compile") :
    (answer client settings request).response = replyBody settings.environment quote
      (Body.read request.contentType request.content) := by
  have found : Routing.find (Text.ofString "POST") (Text.ofString "/api/v1/queries/compile") =
      .to .compile := by decide
  rw [answer, posted, routed, found]
  dsimp only
  cases Body.read request.contentType request.content with
  | malformed | unreadable => rfl
  | absent | bytes | json => exact response_compile_body client hostless single _ _

end

theorem compiled_cases (quote : CodePoint) (query : Text × List Json) :
    (∃ sql, compiled quote query = .ok sql) ∨
      ∃ error, compiled quote query = .error (.query error) :=
  Template.ok_or_query_iff.mpr (Body.compile_resolve_ne_fault quote)

/-- A query is sent unless it has a surrogate. -/
theorem status_reply_ok (environment : Environment) (sql : Text) :
    let status := (reply environment (.ok sql)).status
    status = 200 ∧ (∀ c ∈ sql, c.isSurrogate = false) ∨
      status = 500 ∧ ∃ c ∈ sql, c.isSurrogate = true := by
  intro status
  by_cases plain : ∀ c ∈ sql, c.isSurrogate = false
  · have encodable := unencodable?_eq_none_iff.mpr plain
    exact .inl ⟨by simp only [status, reply, encodable], plain⟩
  · obtain ⟨cause, unencodable⟩ :=
      Option.ne_none_iff_exists'.mp (mt unencodable?_eq_none_iff.mp plain)
    have failed : reply environment (.ok sql) = .failed environment cause := by
      simp only [reply, unencodable]
    exact .inr ⟨congrArg Response.status failed, by simpa using plain⟩

/-- The four ways to answer a body that was read. -/
theorem status_replyQuery (environment : Environment) (quote : CodePoint) (body : Body) :
    let status := (replyQuery environment quote body).status
    status = 422 ∧ (∃ refusals, body.query = .error refusals) ∨
    ∃ query, body.query = .ok query ∧
      (status = 400 ∧ (∃ error, compiled quote query = .error (.query error)) ∨
      ∃ sql, compiled quote query = .ok sql ∧
        (status = 200 ∧ (∀ c ∈ sql, c.isSurrogate = false) ∨
          status = 500 ∧ ∃ c ∈ sql, c.isSurrogate = true)) := by
  intro status
  cases asked : body.query with
  | error refusals =>
    have refused : replyQuery environment quote body = .refused refusals := by
      simp only [replyQuery, asked]
    exact .inl ⟨congrArg Response.status refused, refusals, rfl⟩
  | ok query =>
    have answered : replyQuery environment quote body =
        reply environment (compiled quote query) := by
      simp only [replyQuery, asked]
    refine .inr ⟨query, rfl, ?_⟩
    rcases compiled_cases quote query with ⟨sql, done⟩ | ⟨error, failed⟩
    · rw [done] at answered
      exact .inr ⟨sql, done, by simpa only [status, answered] using status_reply_ok environment sql⟩
    · rw [failed] at answered
      exact .inl ⟨congrArg Response.status answered, error, failed⟩

/-- Only a body that cannot be read is answered as no query is. -/
theorem status_replyBody (environment : Environment) (quote : CodePoint) (body : Body) :
    let status := (replyBody environment quote body).status
    status = 400 ∧ body = .unreadable ∨ body ≠ .unreadable ∧
      (status = 422 ∧ (∃ refusals, body.query = .error refusals) ∨
      ∃ query, body.query = .ok query ∧
        (status = 400 ∧ (∃ error, compiled quote query = .error (.query error)) ∨
        ∃ sql, compiled quote query = .ok sql ∧
          (status = 200 ∧ (∀ c ∈ sql, c.isSurrogate = false) ∨
            status = 500 ∧ ∃ c ∈ sql, c.isSurrogate = true))) := by
  cases body with
  | unreadable => exact .inl ⟨rfl, rfl⟩
  | malformed offset => exact .inr ⟨nofun, .inl ⟨rfl, _, rfl⟩⟩
  | absent | bytes | json => exact .inr ⟨nofun, status_replyQuery ..⟩

/-- **The status of a response.** Without a host and with a single quote, any bytes sent for a query
are answered with one of four statuses: 422 for a body that is no JSON or does not pass its checks,
400 for one that cannot be read and for a query error, 200 for a query, and 500 for a query with a
surrogate, which only an argument or the identifier quote can bring into it. -/
theorem status_answer (client : Client) {settings : Settings} {quote : CodePoint}
    {request : Request} (hostless : settings.host = none ∨ settings.host = some [])
    (single : settings.identifierQuote = [quote]) (posted : request.method = Text.ofString "POST")
    (routed : request.path = Text.ofString "/api/v1/queries/compile") :
    let body := Body.read request.contentType request.content
    let status := (answer client settings request).response.status
    (status = 200 ∨ status = 400 ∨ status = 422 ∨ status = 500) ∧
    (status = 422 ↔ body ≠ .unreadable ∧ ∃ refusals, body.query = .error refusals) ∧
    (status = 400 ↔ body = .unreadable ∨
      ∃ query error, body.query = .ok query ∧ compiled quote query = .error (.query error)) ∧
    (status = 200 ↔ ∃ query sql, body.query = .ok query ∧ compiled quote query = .ok sql ∧
      ∀ c ∈ sql, c.isSurrogate = false) ∧
    (status = 500 ↔ ∃ query sql, body.query = .ok query ∧ compiled quote query = .ok sql ∧
      ∃ c ∈ sql, c.isSurrogate = true) ∧
    (status = 500 → quote.isSurrogate = true ∨ ∃ query, body.query = .ok query ∧
      ∃ t ∈ Json.itemStrings query.2, ∃ c ∈ t, c.isSurrogate = true) := by
  intro body
  have answered : (answer client settings request).response =
      replyBody settings.environment quote body :=
    response_answer_body client hostless single posted routed
  have ways := status_replyBody settings.environment quote body
  rw [answered]
  generalize replyBody settings.environment quote body = response at ways
  -- one case for each way to answer, of which the status tells only part
  rcases ways with ⟨is400, unreadable⟩ | ⟨read, ⟨is422, refusals, refused⟩ |
    ⟨query, asked, ⟨is400, error, failed⟩ | ⟨sql, done, sent⟩⟩⟩
  · simp [is400, unreadable, Body.query, Body.object]
  · simp [is422, read, refused]
  · simp [is400, read, asked, failed]
  · rcases sent with ⟨is200, plain⟩ | ⟨is500, c, mem, lone⟩
    · simpa [is200, read, asked, done] using plain
    · have origin : quote.isSurrogate = true ∨
          ∃ t ∈ Json.itemStrings query.2, ∃ c ∈ t, c.isSurrogate = true := by
        rcases surrogate_origin (Body.plain_of_query_eq_ok asked) done mem lone with
          rfl | ⟨t, held, within⟩
        · exact .inl lone
        · exact .inr ⟨t, held, c, within, lone⟩
      have met : ∃ c ∈ sql, c.isSurrogate = true := ⟨c, mem, lone⟩
      simpa [is500, read, asked, done] using And.intro met origin

/-- The argument of a request is escaped, and its query is sent. -/
theorem status_answer_sent :
    let request := compileRequest "\x7b\"template\": \"a = ?\", \"args\": [\"it's\"]\x7d"
    let body : Json :=
      .object [("template", .string "a = ?"), ("args", .array [.string "it's"])]
    Settings.default.host = none ∧ Settings.default.identifierQuote = [Dialect.backquote] ∧
      request.method = Text.ofString "POST" ∧
      request.path = Text.ofString "/api/v1/queries/compile" ∧
      Body.read request.contentType request.content = .json body ∧
      (answer idleClient .default request).response.status = 200 := by
  intro request body
  have parsed : Json.parse Body.limits
      "\x7b\"template\": \"a = ?\", \"args\": [\"it's\"]\x7d" = .ok body := by
    cbv
  have decoded : Body.read request.contentType request.content = .json body :=
    Body.read_eq_object (by decide) (by decide) (by decide +kernel) parsed
  have asked : (Body.read request.contentType request.content).query =
      .ok ("a = ?", [.string "it's"]) := by
    rw [decoded]
    rfl
  have done : compiled Dialect.backquote ("a = ?", [.string "it's"]) = .ok "a = 'it\\'s'" := rfl
  have posted : request.method = Text.ofString "POST" := rfl
  have routed : request.path = Text.ofString "/api/v1/queries/compile" := rfl
  have hostless : Settings.default.host = none := rfl
  have single : Settings.default.identifierQuote = [Dialect.backquote] := rfl
  obtain ⟨-, -, -, sent, -⟩ := status_answer idleClient (.inl hostless) single posted routed
  exact ⟨hostless, single, posted, routed, decoded, sent.mpr ⟨_, _, asked, done, by decide⟩⟩

/-- A lone surrogate passes as an argument, into a query that cannot be sent. -/
theorem status_answer_surrogate :
    let request := compileRequest "\x7b\"template\": \"?\", \"args\": [\"\\udc00\"]\x7d"
    let body : Json := .object
      [("template", .string "?"), ("args", .array [.string [⟨0xDC00, by decide⟩]])]
    Body.read request.contentType request.content = .json body ∧
      (answer idleClient .default request).response.status = 500 := by
  intro request body
  have parsed : Json.parse Body.limits
      "\x7b\"template\": \"?\", \"args\": [\"\\udc00\"]\x7d" = .ok body := by
    cbv
  have decoded : Body.read request.contentType request.content = .json body :=
    Body.read_eq_object (by decide) (by decide) (by decide +kernel) parsed
  refine ⟨decoded, ?_⟩
  rw [response_answer_body idleClient (.inl rfl) rfl rfl rfl, decoded]
  rfl

end Service

end SqlTemplate
