import SqlTemplate.Proofs.ConnectionLife
import SqlTemplate.Proofs.Provenance
import SqlTemplate.Proofs.RequestArguments
import SqlTemplate.Service.Handle

/-!
# The service answers with what a compilation gives

Without a host a request uses the default dialect and no connection, so it is answered with the
outcome of the compilation alone (`Service.response_compile`): the query, unless it cannot be
encoded, or the error.
-/

namespace SqlTemplate

/-- A request for a query: an object with a template of admissible length and, unless there are
none, a list of arguments, all without surrogates. -/
structure Json.Asks (body : Json) (template : Text) (args : List Json) : Prop where
  hasTemplate : body.member? "template" = some (.string template)
  length : 1 ≤ template.length ∧ template.length ≤ 65536
  hasArgs : body.member? "args" = some (.array args) ∨ body.member? "args" = none ∧ args = []
  encodable : ∀ t ∈ body.strings, ∀ c ∈ t, c.isSurrogate = false

namespace Json.Asks

variable {body : Json} {template : Text} {args : List Json}

theorem template_encodable (asks : body.Asks template args) :
    ∀ c ∈ template, c.isSurrogate = false :=
  asks.encodable template (strings_member? asks.hasTemplate (by simp [strings]))

theorem args_encodable (asks : body.Asks template args) :
    ∀ t ∈ itemStrings args, ∀ c ∈ t, c.isSurrogate = false := by
  intro t mem
  rcases asks.hasArgs with given | ⟨-, rfl⟩
  · exact asks.encodable t (strings_member? given (by simpa [strings] using mem))
  · simp [itemStrings] at mem

/-- Such a body passes every check. -/
theorem query_eq_ok (asks : body.Asks template args) :
    (Body.json body).query = .ok (template, args) := by
  obtain ⟨members, rfl⟩ : ∃ members, body = .object members := by
    have found := asks.hasTemplate
    cases body <;> simp_all [member?]
  have present : template ≠ [] := List.ne_nil_of_length_pos asks.length.1
  have fits : ¬ Body.templateLimit < template.length := Nat.not_lt.mpr asks.length.2
  have checked : Body.template (.object members) = .ok template := by
    have encodable : template.any CodePoint.isSurrogate = false := by
      simpa using asks.template_encodable
    simp [Body.template, Body.checkMember, asks.hasTemplate, Body.checkTemplate, checkText,
      encodable, present, fits, bind, Except.bind]
  have given : Body.arguments (.object members) = .ok args := by
    rcases asks.hasArgs with given | ⟨missing, rfl⟩
    · simp [Body.arguments, Body.checkMember, given, Body.checkList]
    · simp [Body.arguments, Body.checkMember, missing]
  simp [Body.query, Body.object, checked, given]

end Json.Asks

/-- Bytes are read as a text and the text as a value. -/
theorem Body.read_eq_object {contentType text : Text} {content : List UInt8}
    {members : List (Text × Json)} (typed : isJson contentType = true) (present : content ≠ [])
    (decoded : (Encoding.detect content).1.decode? (Encoding.detect content).2 = some text)
    (parsed : Json.parse limits text = .ok (.object members)) :
    read (some contentType) content = .json (.object members) := by
  simp only [read, present, if_false, Option.any_some, typed, if_true, decoded, parsed]

/-- Without a host there is nothing to connect to. -/
theorem Client.visit_hostless {α : Type} (client : Client) {settings : Settings}
    (hostless : settings.host = none ∨ settings.host = some []) {quote : CodePoint}
    (single : settings.identifierQuote = [quote]) (use : Shared → Database → α × Trace) :
    let d : Dialect := ⟨Dialect.defaultEscape, quote⟩
    let used := use ⟨[quote], some d, .standard⟩ ⟨d, false⟩
    client.visit settings use = ⟨.ok used.1, none, used.2⟩ := by
  simp [Client.visit, Client.connect, Settings.target?_of_hostless hostless, single,
    Shared.openDatabase, Shared.initial, Shared.defaultDialect, Dialect.forClient, Dialect.make,
    Client.close, Except.map]

namespace Service

/-- Exactly the texts without surrogates can be sent. -/
theorem unencodable?_eq_none_iff {sql : Text} :
    unencodable? sql = none ↔ ∀ c ∈ sql, c.isSurrogate = false := by
  have first : (sql.drop (sql.takeWhile (!CodePoint.isSurrogate ·)).length).takeWhile
      CodePoint.isSurrogate = [] ↔ ∀ c ∈ sql, c.isSurrogate = false := by
    induction sql with
    | nil => simp
    | cons c sql ih => cases lone : c.isSurrogate <;> simp [lone, ih]
  rw [← first, unencodable?]
  split <;> simp_all

/-- The answer to a compilation. -/
def reply (environment : Environment) : Except Failure Text → Response
  | .ok sql =>
    match unencodable? sql with
    | none => ⟨200, some (.object [("sql", .string sql)])⟩
    | some cause => .failed environment cause
  | .error (.query error) => .rejected error
  | .error (.fault cause) => .failed environment cause

/-- The connection, the journal and the order of events play no part in the answer. -/
theorem response_compile (client : Client) {settings : Settings}
    (hostless : settings.host = none ∨ settings.host = some []) {quote : CodePoint}
    (single : settings.identifierQuote = [quote]) (path : Text) {body : Body} {template : Text}
    {args : List Json} (asked : body.query = .ok (template, args)) :
    (compile client settings path body).response =
      reply settings.environment
        (Template.compile .standard ⟨Dialect.defaultEscape, quote⟩ template
          (Body.resolve args)).result := by
  simp only [compile, Client.visit_hostless client hostless single, compileBody, asked,
    Shared.build, Shared.compileWith]
  cases (Template.compile .standard ⟨Dialect.defaultEscape, quote⟩ template
    (Body.resolve args)).result with
  | ok sql => cases encodable : unencodable? sql <;> simp [reply, encodable]
  | error failure => cases failure <;> simp [reply]

/-- A request for a query is answered with the outcome of its compilation. -/
theorem response_answer (client : Client) {settings : Settings} {request : Request}
    {quote : CodePoint} {body : Json} {template : Text} {args : List Json}
    (hostless : settings.host = none ∨ settings.host = some [])
    (single : settings.identifierQuote = [quote]) (posted : request.method = Text.ofString "POST")
    (routed : request.path = Text.ofString "/api/v1/queries/compile")
    (decoded : Body.read request.contentType request.content = .json body)
    (asks : body.Asks template args) :
    (answer client settings request).response =
      reply settings.environment
        (Template.compile .standard ⟨Dialect.defaultEscape, quote⟩ template
          (Body.resolve args)).result := by
  have found : Routing.find (Text.ofString "POST") (Text.ofString "/api/v1/queries/compile") =
      .to .compile := by decide
  rw [answer, posted, routed, found, decoded]
  exact response_compile client hostless single _ asks.query_eq_ok

theorem reply_eq_ok_iff {environment : Environment} {result : Except Failure Text} {sql : Text} :
    reply environment result = ⟨200, some (.object [("sql", .string sql)])⟩ ↔
      result = .ok sql ∧ ∀ c ∈ sql, c.isSurrogate = false := by
  rw [← unencodable?_eq_none_iff]
  rcases result with (error | cause) | written
  · simp [reply, Response.rejected, Response.detail]
  · simp [reply, Response.failed, Response.message, Response.detail]
  · cases encodable : unencodable? written with
    | none =>
      simp only [reply, encodable, Response.mk.injEq, Option.some.injEq, Json.object.injEq,
        List.cons.injEq, Prod.mk.injEq, Json.string.injEq, and_true, true_and, Except.ok.injEq]
      exact ⟨fun same => ⟨same, same ▸ encodable⟩, And.left⟩
    | some cause =>
      simp only [reply, encodable, Response.failed, Response.message, Response.detail,
        Response.mk.injEq, Except.ok.injEq]
      refine ⟨fun wrong => absurd wrong.1 (by decide), ?_⟩
      rintro ⟨rfl, sendable⟩
      simp [encodable] at sendable

theorem reply_eq_rejected_iff {environment : Environment} {result : Except Failure Text}
    {kind message : Text} :
    reply environment result =
        ⟨400, some (.object [("detail",
          .object [("error", .string kind), ("message", .string message)])])⟩ ↔
      ∃ error, result = .error (.query error) ∧ error.kind = kind ∧ error.message = message := by
  rcases result with (error | cause) | sql
  · simp [reply, Response.rejected, Response.detail]
  · simp [reply, Response.failed, Response.message, Response.detail]
  · cases encodable : unencodable? sql <;>
      simp [reply, encodable, Response.failed, Response.message, Response.detail]

/-- A surrogate in a query whose template has none is the identifier quote or comes from a string in
the arguments. -/
theorem surrogate_origin {template : Text} (plain : ∀ c ∈ template, c.isSurrogate = false)
    {args : List Json} {quote : CodePoint} {sql : Text}
    (done : (Template.compile .standard ⟨Dialect.defaultEscape, quote⟩ template
      (Body.resolve args)).result = .ok sql) {c : CodePoint} (mem : c ∈ sql)
    (lone : c.isSurrogate) : c = quote ∨ ∃ t ∈ Json.itemStrings args, c ∈ t := by
  rcases Template.mem_compile FormatterTable.known_standard done mem with
    ascii | same | given | ⟨v, among, t, held, within⟩
  · simp only [CodePoint.isSurrogate, CodePoint.within, Bool.and_eq_true, decide_eq_true_eq] at lone
    omega
  · exact .inl same
  · simp [plain c given] at lone
  · obtain ⟨j, item, held⟩ := Body.texts_resolve among held
    exact .inr ⟨t, Json.mem_itemStrings.mpr ⟨j, item, held⟩, within⟩

/-- In a query for which no surrogate was given, only the identifier quote can be one. -/
theorem surrogate_mem_compile {body : Json} {template : Text} {args : List Json}
    (asks : body.Asks template args) {quote : CodePoint} {sql : Text}
    (done : (Template.compile .standard ⟨Dialect.defaultEscape, quote⟩ template
      (Body.resolve args)).result = .ok sql) {c : CodePoint} (mem : c ∈ sql)
    (lone : c.isSurrogate) : c = quote := by
  rcases surrogate_origin asks.template_encodable done mem lone with same | ⟨t, held, within⟩
  · exact same
  · simp [asks.args_encodable t held c within] at lone

/-- **The service and the compilation agree.** Without a host, a request for a query is answered
with what the template and the resolved arguments compile to, be that a query or an error. Only a
query with a surrogate cannot be sent, which takes an identifier quote that is one. -/
theorem answer_agrees_with_compile (client : Client) {settings : Settings} {request : Request}
    {quote : CodePoint} {body : Json} {template : Text} {args : List Json}
    (hostless : settings.host = none ∨ settings.host = some [])
    (single : settings.identifierQuote = [quote]) (posted : request.method = Text.ofString "POST")
    (routed : request.path = Text.ofString "/api/v1/queries/compile")
    (decoded : Body.read request.contentType request.content = .json body)
    (asks : body.Asks template args) :
    Resolves args (Body.resolve args) ∧
    ∀ values, Resolves args values →
      let compiled := ((Shared.initial settings.identifierQuote).compile template values).1.result
      let response := (answer client settings request).response
      (∀ sql, response = ⟨200, some (.object [("sql", .string sql)])⟩ ↔
        compiled = .ok sql ∧ ¬ (quote.isSurrogate ∧ quote ∈ sql)) ∧
      ∀ kind message,
        response = ⟨400, some (.object [("detail",
            .object [("error", .string kind), ("message", .string message)])])⟩ ↔
          ∃ error, compiled = .error (.query error) ∧ error.kind = kind ∧
            error.message = message := by
  refine ⟨Body.resolves_resolve args, fun values resolves => ?_⟩
  have answered := response_answer client hostless single posted routed decoded asks
  have same : ((Shared.initial settings.identifierQuote).compile template values).1.result =
      (Template.compile .standard ⟨Dialect.defaultEscape, quote⟩ template
        (Body.resolve args)).result := by
    rw [single]
    exact congrArg Rendering.result
      (Template.compile_eq_of_resolves _ _ _ resolves (Body.resolves_resolve args))
  simp only [answered, same, reply_eq_ok_iff, reply_eq_rejected_iff, implies_true, and_true]
  refine fun sql => and_congr_right fun done => ⟨?_, ?_⟩
  · rintro encodable ⟨lone, mem⟩
    simp [encodable quote mem] at lone
  · intro unquoted c mem
    cases lone : c.isSurrogate with
    | false => rfl
    | true =>
      obtain rfl := surrogate_mem_compile asks done mem lone
      exact absurd ⟨lone, mem⟩ unquoted

/-- A request to compile the query that a text in JSON asks for. -/
def compileRequest (body : String) : Request where
  method := "POST"
  path := "/api/v1/queries/compile"
  contentType := some "application/json"
  content := Utf8.encode body

/-- A client without a server behind it. -/
def idleClient : Client :=
  ⟨none, Dialect.defaultEscape, none⟩

/-- A marker in the request drops the block, as any skip signal does. -/
theorem answer_agrees_with_compile_skip :
    let request := compileRequest
      "\x7b\"template\": \"a\x7b = ?\x7d\", \"args\": [\x7b\"$skip\": true\x7d]\x7d"
    let body : Json :=
      .object [("template", .string "a\x7b = ?\x7d"), ("args", .array [.skipMarker])]
    Body.read request.contentType request.content = .json body ∧
      body.Asks "a\x7b = ?\x7d" [.skipMarker] ∧
      (answer idleClient .default request).response =
        ⟨200, some (.object [("sql", .string "a")])⟩ := by
  intro request body
  -- decoding is left to the kernel, which evaluates it faster than the elaborator
  have parsed : Json.parse Body.limits
      "\x7b\"template\": \"a\x7b = ?\x7d\", \"args\": [\x7b\"$skip\": true\x7d]\x7d" =
        .ok body := by
    cbv
  have decoded : Body.read request.contentType request.content = .json body :=
    Body.read_eq_object (by decide) (by decide) (by decide +kernel) parsed
  have asks : body.Asks "a\x7b = ?\x7d" [.skipMarker] :=
    ⟨rfl, by decide, .inl rfl, by decide⟩
  have hostless : Settings.default.host = none ∨ Settings.default.host = some [] := .inl rfl
  obtain ⟨resolves, agrees⟩ :=
    answer_agrees_with_compile idleClient hostless rfl rfl rfl decoded asks
  exact ⟨decoded, asks, ((agrees _ resolves).1 "a").mpr ⟨rfl, by decide⟩⟩

/-- A dialect can have a surrogate for its quote; a name between two of them compiles, but cannot be
sent. -/
theorem answer_surrogate_quote :
    let quote : CodePoint := ⟨0xD800, by decide⟩
    let settings : Settings := { Settings.default with identifierQuote := [quote] }
    let request := compileRequest "\x7b\"template\": \"?#\", \"args\": [\"x\"]\x7d"
    let body : Json := .object [("template", .string "?#"), ("args", .array [.string "x"])]
    let sql : Text := [quote, CodePoint.ofChar 'x', quote]
    Body.read request.contentType request.content = .json body ∧ body.Asks "?#" [.string "x"] ∧
      ((Shared.initial settings.identifierQuote).compile "?#" [.text "x"]).1.result = .ok sql ∧
      (answer idleClient settings request).response ≠
        ⟨200, some (.object [("sql", .string sql)])⟩ := by
  intro quote settings request body sql
  have parsed : Json.parse Body.limits
      "\x7b\"template\": \"?#\", \"args\": [\"x\"]\x7d" = .ok body := by
    cbv
  have decoded : Body.read request.contentType request.content = .json body :=
    Body.read_eq_object (by decide) (by decide) (by decide +kernel) parsed
  have asks : body.Asks "?#" [.string "x"] := ⟨rfl, by decide, .inl rfl, by decide⟩
  refine ⟨decoded, asks, rfl, fun sent => ?_⟩
  rw [response_answer idleClient (.inl rfl) rfl rfl rfl decoded asks] at sent
  exact absurd ((reply_eq_ok_iff.mp sent).2 quote (by decide)) (by decide)

end Service

end SqlTemplate
