import SqlTemplate.Text.CodePoint

/-!
# Routes

Every path has its methods. A path that would lead somewhere with a slash more or less at its end is
redirected there.
-/

namespace SqlTemplate

inductive Endpoint
  | compile
  | inspect
  | liveness
  | page
  deriving DecidableEq

namespace Endpoint

/-- The name under which a failure in an endpoint is logged. -/
def handler : Endpoint → Text
  | .compile => "compile_template"
  | .inspect => "inspect_template"
  | .liveness => "liveness"
  | .page => "page"

end Endpoint

structure Route where
  path : Text
  methods : List Text
  endpoint : Endpoint

namespace Route

/-- The routes, the pages that describe the service first. -/
def all : List Route :=
  let page (path : String) : Route := ⟨path, ["GET", "HEAD"], .page⟩
  [page "/api/v1/openapi.json", page "/api/docs", page "/docs/oauth2-redirect", page "/api/redoc",
   ⟨"/api/v1/utils/liveness/", ["GET"], .liveness⟩,
   ⟨"/api/v1/queries/compile", ["POST"], .compile⟩,
   ⟨"/api/v1/queries/inspect", ["POST"], .inspect⟩]

/-- A path leads to a route also with a line feed behind it. -/
def leads (r : Route) (path : Text) : Bool :=
  decide (path = r.path) || decide (path = r.path ++ [CodePoint.ofChar '\n'])

end Route

inductive Routing
  | to (endpoint : Endpoint)
  | wrongMethod
  | redirect
  | nowhere
  deriving DecidableEq

namespace Routing

/-- The path with its final slashes removed, or with one added if it has none. -/
def otherSlash (path : Text) : Text :=
  let bare := path.dropEndWhile (· = CodePoint.ofChar '/')
  if bare.length = path.length then path ++ [CodePoint.ofChar '/'] else bare

def find (method path : Text) : Routing :=
  let here := Route.all.filter (·.leads path)
  match here.find? fun r => r.methods.contains method with
  | some r => .to r.endpoint
  | none =>
    if !here.isEmpty then .wrongMethod
    else if path ≠ Text.ofString "/" ∧ Route.all.any (·.leads (otherSlash path)) then .redirect
    else .nowhere

end Routing

end SqlTemplate
