import SqlTemplate.Proofs.Rendering
import SqlTemplate.Session

/-!
# The dialects of a session

The default dialect of a session is empty until a use of it meets a setting that gives one, and is
kept from then on; a database keeps the dialect that it was opened with
(`Session.dialects_of_run`). What a single command does to the setting, to the kept dialect and to
the databases is said once (`Session.step_effect`), and what a run does follows from it.
-/

namespace SqlTemplate

/-- The default dialect that a quote setting gives, which has to be a single code point. -/
def Dialect.ofSetting? : Text → Option Dialect
  | [quote] => some ⟨defaultEscape, quote⟩
  | _ => none

namespace Command

/-- Whether a command uses the default dialect. -/
def usesDefault : Command → Bool
  | .compile .. | .openDatabase _ none none none => true
  | _ => false

/-- The quote setting behind a command. -/
def settingAfter (quote : Text) : Command → Text
  | .setQuote quote => quote
  | _ => quote

/-- The quote setting behind a run of commands. -/
def setting (quote : Text) (commands : List Command) : Text :=
  commands.foldl settingAfter quote

/-- The settings that the uses of the default dialect meet in a run. -/
def defaultUses (quote : Text) : List Command → List Text
  | [] => []
  | command :: rest =>
    (if command.usesDefault then [quote] else []) ++ defaultUses (command.settingAfter quote) rest

/-- The database that a command has opened by its answer, with its name. -/
def opened : Command → Answer → List (Text × Database)
  | .openDatabase name .., .opened (.ok db) => [(name, db)]
  | _, _ => []

end Command

namespace Shared

/-- The dialect that a use of the default dialect gets: the one that is kept, or else the one that
the setting gives. -/
def dialectInForce (s : Shared) : Option Dialect :=
  s.dialect.or (Dialect.ofSetting? s.quote)

/-- What is left behind by a use of the default dialect. -/
def settled (s : Shared) : Shared :=
  { s with dialect := s.dialectInForce }

theorem settled_of_none {s : Shared} (missing : s.dialectInForce = none) : s.settled = s := by
  have empty : s.dialect = none := (Option.or_eq_none_iff.mp missing).1
  rw [settled, missing, ← empty]

theorem defaultDialect_eq (s : Shared) :
    s.defaultDialect = (s.dialectInForce.elim (.error .invalidQuote) .ok, s.settled) := by
  obtain ⟨quote, dialect, formatters⟩ := s
  cases dialect with
  | some d => rfl
  | none =>
    match quote with
    | [] => rfl
    | [_] => rfl
    | _ :: _ :: _ => rfl

theorem compile_eq (s : Shared) (template : Text) (args : List Value) :
    s.compile template args =
      (s.dialectInForce.elim (.fault .invalidQuote) fun d => s.compileWith d template args,
        s.settled) := by
  rw [compile, defaultDialect_eq]
  cases s.dialectInForce <;> rfl

theorem openDatabase_default (s : Shared) :
    s.openDatabase none none none =
      (s.dialectInForce.elim (.error .invalidQuote) fun d => .ok ⟨d, false⟩, s.settled) := by
  simp only [openDatabase, defaultDialect_eq]
  cases s.dialectInForce <;> rfl

/-- A client's own connection or escape function takes the quote from the setting. -/
theorem openDatabase_forClient (s : Shared) {connection : Option Connection}
    {escape : Option Escape} (own : connection ≠ none ∨ escape ≠ none) :
    s.openDatabase connection escape none =
      (match escape.or (connection.bind (·.escape)), s.quote with
        | none, _ => .error .noEscape
        | some escape, [quote] => .ok ⟨⟨escape, quote⟩, connection.isSome⟩
        | some _, _ => .error .invalidQuote, s) := by
  obtain ⟨quote, dialect, formatters⟩ := s
  rcases escape with _ | escape <;> rcases connection with _ | ⟨_ | other⟩
  · simp at own
  · rfl
  all_goals
    match quote with
    | [] => rfl
    | [_] => rfl
    | _ :: _ :: _ => rfl

/-- Opening a database changes nothing but that it may use the default dialect. -/
theorem openDatabase_snd (s : Shared) (name : Text) (connection : Option Connection)
    (escape : Option Escape) (dialect : Option Dialect) :
    (s.openDatabase connection escape dialect).2 =
      if (Command.openDatabase name connection escape dialect).usesDefault then s.settled
      else s := by
  cases dialect with
  | some d => cases connection <;> cases escape <;> rfl
  | none =>
    by_cases own : connection ≠ none ∨ escape ≠ none
    · rw [s.openDatabase_forClient own]
      cases connection <;> cases escape <;> simp_all [Command.usesDefault]
    · obtain ⟨rfl, rfl⟩ : connection = none ∧ escape = none := by simpa using own
      rw [openDatabase_default]
      rfl

/-- Building reads nothing of what the databases share but the formatters. -/
theorem build_congr {s t : Shared} (same : s.formatters = t.formatters) (db : Database)
    (template : Text) (args : List Value) :
    s.build db template args = t.build db template args := by
  simp only [build, compileWith, same]

end Shared

namespace Session

/-- Nothing but the last SQL is remembered of an outcome. -/
theorem remember_frame (s : Session) (outcome : Outcome) :
    (s.remember outcome).shared = s.shared ∧ (s.remember outcome).databases = s.databases := by
  unfold remember
  split <;> exact ⟨rfl, rfl⟩

theorem build_frame (s : Session) (name template : Text) (args : List Value) :
    (s.build name template args).2.shared = s.shared ∧
      (s.build name template args).2.databases = s.databases := by
  unfold build
  split
  · exact ⟨rfl, rfl⟩
  · exact remember_frame ..

theorem step_compile (s : Session) (template : Text) (args : List Value) :
    let outcome := s.shared.dialectInForce.elim (.fault .invalidQuote) fun d =>
      s.shared.compileWith d template args
    s.step (.compile template args) =
      (.compiled outcome, { s with shared := s.shared.settled }.remember outcome) := by
  simp only [step, Shared.compile_eq]

theorem step_openDatabase (s : Session) (name : Text) (connection : Option Connection)
    (escape : Option Escape) (dialect : Option Dialect) :
    let opening := s.shared.openDatabase connection escape dialect
    s.step (.openDatabase name connection escape dialect) = (.opened opening.1, { s with
      shared := opening.2
      databases := (Command.openDatabase name connection escape dialect).opened
        (.opened opening.1) ++ s.databases }) := by
  rcases opening : s.shared.openDatabase connection escape dialect with ⟨cause | db, shared⟩ <;>
    simp only [step, opening] <;> rfl

theorem step_build {s : Session} {name : Text} {db : Database}
    (found : s.database? name = .ok db) (template : Text) (args : List Value) :
    (s.step (.build name template args)).1 = .compiled (s.shared.build db template args) := by
  simp only [step, build, found]

/-- What a command does to the quote setting, to the kept dialect and to the databases. -/
theorem step_effect (s : Session) (command : Command) :
    (s.step command).2.shared.quote = command.settingAfter s.shared.quote ∧
    (s.step command).2.shared.dialect =
      (if command.usesDefault then s.shared.dialectInForce else s.shared.dialect) ∧
    (s.step command).2.databases = command.opened (s.step command).1 ++ s.databases := by
  cases command with
  | setQuote | dropFormatter | restoreFormatters => exact ⟨rfl, rfl, rfl⟩
  | build name template args =>
    obtain ⟨shared, databases⟩ := s.build_frame name template args
    rw [step, shared, databases]
    exact ⟨rfl, rfl, rfl⟩
  | rebuild name args =>
    obtain ⟨shared, databases⟩ := s.build_frame name s.last args
    rw [step, shared, databases]
    exact ⟨rfl, rfl, rfl⟩
  | issueSkip name database =>
    unfold step
    dsimp only
    split <;> exact ⟨rfl, rfl, rfl⟩
  | compile template args =>
    rw [step_compile]
    dsimp only
    rw [(remember_frame ..).1, (remember_frame ..).2]
    exact ⟨rfl, rfl, rfl⟩
  | openDatabase name connection escape dialect =>
    rw [step_openDatabase]
    dsimp only
    rw [Shared.openDatabase_snd s.shared name]
    refine ⟨?_, ?_, rfl⟩
    · split <;> rfl
    · split <;> rfl

/-- The session behind a run of commands. -/
def after (s : Session) (commands : List Command) : Session :=
  (s.run commands).2

theorem after_cons (s : Session) (command : Command) (rest : List Command) :
    s.after (command :: rest) = (s.step command).2.after rest :=
  rfl

/-- The kept dialect is the first one that a setting gave which a use of the default dialect met. -/
theorem shared_after (s : Session) (commands : List Command) :
    (s.after commands).shared.quote = Command.setting s.shared.quote commands ∧
      (s.after commands).shared.dialect = s.shared.dialect.or
        ((Command.defaultUses s.shared.quote commands).findSome? Dialect.ofSetting?) := by
  induction commands generalizing s with
  | nil => simp [after, run, Command.setting, Command.defaultUses]
  | cons command rest ih =>
    obtain ⟨setting, dialect, -⟩ := s.step_effect command
    obtain ⟨settingAfter, dialectAfter⟩ := ih (s.step command).2
    rw [after_cons, settingAfter, dialectAfter, setting, dialect]
    refine ⟨rfl, ?_⟩
    rw [Command.defaultUses]
    cases command.usesDefault with
    | false => rfl
    | true =>
      rw [if_pos rfl, if_pos rfl, List.singleton_append, List.findSome?_cons,
        Shared.dialectInForce, Option.or_assoc]
      cases Dialect.ofSetting? s.shared.quote <;> rfl

/-- What is kept as the default dialect is never replaced. -/
theorem dialect_after_of_some {s : Session} {d : Dialect} (kept : s.shared.dialect = some d)
    (later : List Command) : (s.after later).shared.dialect = some d := by
  rw [(s.shared_after later).2, kept, Option.some_or]

/-- A run that opens no database under a name; attempts that fail do not count. -/
def Leaves (s : Session) (name : Text) (commands : List Command) : Prop :=
  ∀ (i : Nat) (command : Command) (answer : Answer), commands[i]? = some command →
    (s.run commands).1[i]? = some answer → ∀ db, (name, db) ∉ command.opened answer

/-- A name stands for its database until another one is opened under it. -/
theorem database?_after {s : Session} {name : Text} {db : Database}
    (found : s.database? name = .ok db) {commands : List Command} (left : s.Leaves name commands) :
    (s.after commands).database? name = .ok db := by
  induction commands generalizing s with
  | nil => exact found
  | cons command rest ih =>
    have unopened : (command.opened (s.step command).1).find? (fun d => decide (d.1 = name)) =
        none := by
      rw [List.find?_eq_none]
      rintro ⟨other, opened⟩ mem same
      obtain rfl := of_decide_eq_true same
      exact left 0 command _ rfl rfl opened mem
    have next : (s.step command).2.database? name = .ok db := by
      rw [database?, (s.step_effect command).2.2, List.find?_append, unopened, Option.none_or]
      exact found
    have leftAfter : (s.step command).2.Leaves name rest := fun i => left (i + 1)
    exact ih next leftAfter

/-- The answer to opening a database tells which one its name stands for. -/
theorem database?_step {s : Session} {name : Text} {connection : Option Connection}
    {escape : Option Escape} {dialect : Option Dialect} {db : Database}
    (answered : (s.step (.openDatabase name connection escape dialect)).1 = .opened (.ok db)) :
    (s.step (.openDatabase name connection escape dialect)).2.database? name = .ok db := by
  rw [database?, (s.step_effect _).2.2, answered]
  simp [Command.opened]

/-- **The dialects of a session.** The default dialect is the first one that a setting gave which a
use of it met, and it is kept for good; a use that gets none fails and leaves the session as it was.
A client's own connection or escape function takes the quote that is set when its database is
opened. A database builds the same query in the same way at any two points of the run that have the
same formatters, and its name stands for it until another one is opened under it. -/
theorem dialects_of_run (quote : Text) (before : List Command) :
    let s := (initial quote).after before
    let setting := Command.setting quote before
    (s.shared.quote = setting ∧
      s.shared.dialect = (Command.defaultUses quote before).findSome? Dialect.ofSetting? ∧
      ∀ d, s.shared.dialect = some d → ∀ later, (s.after later).shared.dialect = some d) ∧
    (∀ name template args,
      match s.shared.dialect.or (Dialect.ofSetting? setting) with
      | none =>
        Fault.invalidQuote.kind = "ValueError" ∧
          s.step (.compile template args) = (.compiled (.fault .invalidQuote), s) ∧
          s.step (.openDatabase name none none none) = (.opened (.error .invalidQuote), s)
      | some d =>
        (s.step (.compile template args)).1 = .compiled (s.shared.compileWith d template args) ∧
          (s.step (.openDatabase name none none none)).1 = .opened (.ok ⟨d, false⟩)) ∧
    (∀ name connection escape, connection ≠ none ∨ escape ≠ none →
      let opening := s.step (.openDatabase name connection escape none)
      opening.2.shared = s.shared ∧ opening.1 = .opened
        (match escape.or (connection.bind (·.escape)), setting with
          | none, _ => .error .noEscape
          | some escape, [quote] => .ok ⟨⟨escape, quote⟩, connection.isSome⟩
          | some _, _ => .error .invalidQuote)) ∧
    ∀ name connection escape dialect db,
      let opening := s.step (.openDatabase name connection escape dialect)
      opening.1 = .opened (.ok db) → ∀ first second,
        let s₁ := opening.2.after first
        let s₂ := opening.2.after second
        s₁.shared.formatters = s₂.shared.formatters → ∀ template args,
          s₁.shared.build db template args = s₂.shared.build db template args ∧
            (opening.2.Leaves name first → (s₁.step (.build name template args)).1 =
              .compiled (s₂.shared.build db template args)) := by
  intro s setting
  obtain ⟨quoteIs, dialectIs⟩ := (initial quote).shared_after before
  have quoteIs : s.shared.quote = setting := quoteIs
  refine ⟨⟨quoteIs, dialectIs, fun d kept later => dialect_after_of_some kept later⟩, ?_, ?_, ?_⟩
  · intro name template args
    rw [← quoteIs, ← Shared.dialectInForce, step_compile, step_openDatabase,
      Shared.openDatabase_default]
    cases inForce : s.shared.dialectInForce with
    | none =>
      rw [Shared.settled_of_none inForce]
      exact ⟨rfl, rfl, rfl⟩
    | some d => exact ⟨rfl, rfl⟩
  · intro name connection escape own
    rw [step_openDatabase, s.shared.openDatabase_forClient own, ← quoteIs]
    exact ⟨rfl, rfl⟩
  · intro name connection escape dialect db opening answered first second s₁ s₂ same template args
    have alike := Shared.build_congr same db template args
    refine ⟨alike, ?_⟩
    intro left
    have found : s₁.database? name = .ok db := database?_after (database?_step answered) left
    rw [step_build found, alike]

/-- A database keeps the quote it was opened under, which is not the one of the default dialect. -/
theorem dialects_of_run_requoted :
    let before := [Command.compile "1" [], .setQuote "\"", .compile "1" [], .setQuote "#"]
    let s := (initial "ab").after before
    let opening := s.step (.openDatabase "db" none (some Dialect.defaultEscape) none)
    let requote := [Command.setQuote "ab"]
    let build := Command.build "db" "??" [.text "t"]
    s.shared.dialect = some ⟨Dialect.defaultEscape, CodePoint.ofChar '\x22'⟩ ∧
      opening.1 = .opened (.ok ⟨⟨Dialect.defaultEscape, CodePoint.ofChar '#'⟩, false⟩) ∧
      opening.2.Leaves "db" requote ∧
      ((opening.2.after []).step build).1 = ((opening.2.after requote).step build).1 := by
  intro before s opening requote build
  obtain ⟨⟨-, dialect, -⟩, -, own, kept⟩ := dialects_of_run "ab" before
  have answered := (own "db" none (some Dialect.defaultEscape) (.inr nofun)).2
  have untouched : opening.2.Leaves "db" [] := nofun
  have requoted : opening.2.Leaves "db" requote := by
    rintro (_ | _) command answer found - other <;> cases found
    exact List.not_mem_nil
  have stands := kept "db" none (some Dialect.defaultEscape) none _ answered
  have first := (stands [] [] rfl "??" [.text "t"]).2 untouched
  have second := (stands requote [] rfl "??" [.text "t"]).2 requoted
  exact ⟨dialect, answered, requoted, first.trans second.symm⟩

end Session

end SqlTemplate
