import SqlTemplate.Settings.Basic
import SqlTemplate.Settings.EnvFile
import SqlTemplate.Settings.Integer
import SqlTemplate.Url.Normal

/-!
# Reading settings

A field takes its value from the given values, else from the environment, else from the environment
file, else its default. Names in the environment and the file are matched without regard to case,
and an empty value there counts as none. All fields are checked, in order.
-/

namespace SqlTemplate

namespace Settings

def checkText : Json → Except Invalid Text
  | .string t => .ok t
  | _ => .error .notAString

def checkOptional {α : Type} (check : Json → Except Invalid α) : Json → Except Invalid (Option α)
  | .null => .ok none
  | j => (check j).map some

def checkEnvironment : Json → Except Invalid Environment
  | .string t =>
    if t.any CodePoint.isSurrogate then .error .notUnicode
    else
      match Environment.ofText? t with
      | some e => .ok e
      | none => .error .notAnEnvironment
  | _ => .error .notAnEnvironment

/-- The most bytes of a web address in UTF-8. -/
def urlLimit : Nat := 2083

def checkUrl : Json → Except Invalid Text
  | .string t =>
    if t.any CodePoint.isSurrogate then .error .notUnicode
    else if urlLimit < (Utf8.encode t).length then .error (.longUrl urlLimit)
    else if t = [] then .error (.badUrl .empty)
    else Url.normal? t
  | _ => .error .notAUrl

/-- The settings with one field set to a value that is checked first. -/
def set (s : Settings) (field : Field) (j : Json) : Except Invalid Settings :=
  match field with
  | .apiRoot => (checkText j).map fun t => { s with apiRoot := t }
  | .projectName => (checkText j).map fun t => { s with projectName := t }
  | .environment => (checkEnvironment j).map fun e => { s with environment := e }
  | .reportTo => (checkOptional checkUrl j).map fun t => { s with reportTo := t }
  | .identifierQuote => (checkText j).map fun t => { s with identifierQuote := t }
  | .host => (checkOptional checkText j).map fun t => { s with host := t }
  | .portNumber => (checkInteger j).map fun n => { s with portNumber := n }
  | .user => (checkText j).map fun t => { s with user := t }
  | .password => (checkText j).map fun t => { s with password := t }
  | .database => (checkOptional checkText j).map fun t => { s with database := t }
  | .connectTimeout => (checkInteger j).map fun n => { s with connectTimeout := n }

structure Sources where
  given : List (Text × Json)
  environment : List (Text × Text)
  file : Option Text

/-- The value under a name, in any case: the last one that is not empty. -/
def lastOf (settings : List EnvFile.Setting) (name : Text) : Option Json :=
  let named := settings.filter fun s =>
    decide (Text.asciiLower s.1 = Text.asciiLower name) && decide (s.2 ≠ some [])
  named.getLast?.bind fun s => s.2.map .string

def Sources.value? (s : Sources) (name : Text) : Option Json :=
  let exact := s.given.find? fun g => decide (g.1 = name)
  let similar := s.given.find? fun g => decide (Text.asciiLower g.1 = Text.asciiLower name)
  let environment : List EnvFile.Setting := s.environment.map fun (n, v) => (n, some v)
  let file := s.file.elim [] (EnvFile.read s.environment)
  ((exact <|> similar).map (·.2)) <|> lastOf environment name <|> lastOf file name

/-- The settings that the sources make, or the refusals of all fields that cannot be set. -/
def read (sources : Sources) : Except (List Refusal) Settings :=
  let step (state : Settings × List Refusal) (field : Field) : Settings × List Refusal :=
    match sources.value? field.name with
    | none => state
    | some j =>
      match state.1.set field j with
      | .ok s => (s, state.2)
      | .error reason => (state.1, ⟨some field.name, reason⟩ :: state.2)
  match Field.all.foldl step (default, []) with
  | (s, []) => .ok s
  | (_, refusals) => .error refusals.reverse

end Settings

end SqlTemplate
