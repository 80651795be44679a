import SqlTemplate.Journal
import SqlTemplate.Template.Compile

/-!
# Databases

A database is a dialect fixed when it is opened. Without a connection, an escape function or a
dialect of its own it shares the default dialect, which is made from the quote setting at its first
use and kept from then on; a setting that gives no dialect leaves it to be made later.
-/

namespace SqlTemplate

/-- A client connection, as far as a query needs it. -/
structure Connection where
  escape : Option Escape

/-- What all databases share: the quote setting, the default dialect once it is made, and the
formatters. -/
structure Shared where
  quote : Text
  dialect : Option Dialect
  formatters : FormatterTable

structure Database where
  dialect : Dialect
  connected : Bool

/-- A result with the escape calls it took and the log it left. -/
structure Outcome where
  result : Except Failure Text
  calls : List Text
  journal : Journal

namespace Outcome

def fault (cause : Fault) : Outcome :=
  ⟨.error (.fault cause), [], []⟩

end Outcome

/-- An explicit escape function comes before the connection's, and that before the default. -/
def Dialect.forClient (quote : Text) (connection : Option Connection) (escape : Option Escape) :
    Except Fault Dialect :=
  match escape, connection with
  | some escape, _ => make escape quote
  | none, some ⟨some escape⟩ => make escape quote
  | none, some ⟨none⟩ => .error .noEscape
  | none, none => make defaultEscape quote

namespace Shared

def initial (quote : Text) : Shared :=
  ⟨quote, none, .standard⟩

/-- The default dialect, made now if this is its first use. -/
def defaultDialect (s : Shared) : Except Fault Dialect × Shared :=
  match s.dialect with
  | some d => (.ok d, s)
  | none =>
    match Dialect.forClient s.quote none none with
    | .ok d => (.ok d, { s with dialect := some d })
    | .error cause => (.error cause, s)

/-- Opens a database. -/
def openDatabase (s : Shared) (connection : Option Connection) (escape : Option Escape)
    (dialect : Option Dialect) : Except Fault Database × Shared :=
  let withDialect (d : Dialect) : Database := ⟨d, connection.isSome⟩
  match dialect, connection, escape with
  | some d, _, _ => (.ok (withDialect d), s)
  | none, none, none =>
    let (d, s) := s.defaultDialect
    (d.map withDialect, s)
  | none, _, _ => ((Dialect.forClient s.quote connection escape).map withDialect, s)

/-- Compiles under a given dialect, and notes how many arguments were left over. -/
def compileWith (s : Shared) (d : Dialect) (template : Text) (args : List Value) : Outcome :=
  let rendering := Template.compile s.formatters d template args
  let surplus := Template.surplus template args
  let journal := match rendering.result with
    | .ok _ => if surplus = 0 then [] else [.surplus surplus]
    | .error _ => []
  ⟨rendering.result, rendering.calls, journal⟩

/-- Compiles under the default dialect. -/
def compile (s : Shared) (template : Text) (args : List Value) : Outcome × Shared :=
  match s.defaultDialect with
  | (.ok d, s) => (s.compileWith d template args, s)
  | (.error cause, s) => (.fault cause, s)

/-- Compiles under the dialect of a database, and notes the success. -/
def build (s : Shared) (db : Database) (template : Text) (args : List Value) : Outcome :=
  let outcome := s.compileWith db.dialect template args
  match outcome.result with
  | .ok _ => { outcome with journal := outcome.journal ++ [.built template.length] }
  | .error _ => outcome

end Shared

end SqlTemplate
