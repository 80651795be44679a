import SqlTemplate.Json.Basic

/-!
# Settings

What the service is configured with. Each field has a name, by which every source of settings refers
to it, and a default.
-/

namespace SqlTemplate

/-- Where the service runs. Only a development environment shows the cause of an internal error. -/
inductive Environment
  | development
  | staging
  | production
  deriving DecidableEq

namespace Environment

def text : Environment → Text
  | .development => "local"
  | .staging => "staging"
  | .production => "production"

def ofText? (t : Text) : Option Environment :=
  [development, staging, production].find? fun e => decide (e.text = t)

end Environment

structure Settings where
  apiRoot : Text
  projectName : Text
  environment : Environment
  reportTo : Option Text
  identifierQuote : Text
  host : Option Text
  portNumber : Int
  user : Text
  password : Text
  database : Option Text
  connectTimeout : Int

namespace Settings

def default : Settings where
  apiRoot := "/api/v1"
  projectName := "querytpl"
  environment := .development
  reportTo := none
  identifierQuote := "\x60"
  host := none
  portNumber := 3306
  user := "root"
  password := []
  database := none
  connectTimeout := 10

inductive Field
  | apiRoot
  | projectName
  | environment
  | reportTo
  | identifierQuote
  | host
  | portNumber
  | user
  | password
  | database
  | connectTimeout
  deriving DecidableEq

namespace Field

/-- The fields in the order in which they are checked. -/
def all : List Field :=
  [.apiRoot, .projectName, .environment, .reportTo, .identifierQuote, .host, .portNumber, .user,
   .password, .database, .connectTimeout]

def name : Field → Text
  | .apiRoot => "API_V1_STR"
  | .projectName => "PROJECT_NAME"
  | .environment => "ENVIRONMENT"
  | .reportTo => "SENTRY_DSN"
  | .identifierQuote => "SQL_IDENTIFIER_QUOTE"
  | .host => "MYSQL_HOST"
  | .portNumber => "MYSQL_PORT"
  | .user => "MYSQL_USER"
  | .password => "MYSQL_PASSWORD"
  | .database => "MYSQL_DATABASE"
  | .connectTimeout => "MYSQL_CONNECT_TIMEOUT"

end Field

def optional : Option Text → Json
  | none => .null
  | some t => .string t

/-- The value of a field. -/
def get (s : Settings) : Field → Json
  | .apiRoot => .string s.apiRoot
  | .projectName => .string s.projectName
  | .environment => .string s.environment.text
  | .reportTo => optional s.reportTo
  | .identifierQuote => .string s.identifierQuote
  | .host => optional s.host
  | .portNumber => .int s.portNumber
  | .user => .string s.user
  | .password => .string s.password
  | .database => optional s.database
  | .connectTimeout => .int s.connectTimeout

end Settings

end SqlTemplate
