import SqlTemplate.Proofs.Acceptance

/-!
# Which texts are escaped

A compilation goes through the placeholders, the items of a list and the keys and values of a
mapping in order, and passes each text it meets to the escape function, until a value is refused or
an escape call fails (`Template.calls_compile`).
-/

namespace SqlTemplate

/-- What is done about a value: its text is passed to the escape function, or it is refused. -/
inductive Action
  | escape (raw : Text)
  | refuse (failure : Failure)

namespace Action

def mismatch (token : Token) (reason : Mismatch) : Action :=
  .refuse (.query (.typeMismatch token reason))

def raw? : Action → Option Text
  | .escape raw => some raw
  | .refuse _ => none

/-- An action after which the rendering goes on. -/
inductive Passes (escape : Escape) : Action → Prop
  | escape {raw escaped : Text} : escape raw = .ok escaped → Passes escape (.escape raw)

/-- An action that ends the rendering, with the escape call that it still takes. -/
inductive Fails (escape : Escape) : Action → List Text → Failure → Prop
  | escape {raw : Text} {cause : Fault} : escape raw = .error cause →
    Fails escape (.escape raw) [raw] (.fault cause)
  | refuse (failure : Failure) : Fails escape (.refuse failure) [] failure

end Action

/-- The texts that some actions pass to the escape function, as long as none of them fails. -/
def raws (actions : List Action) : List Text :=
  actions.filterMap Action.raw?

theorem raws_append (a b : List Action) : raws (a ++ b) = raws a ++ raws b :=
  List.filterMap_append

theorem raws_flatMap {α : Type} (items : List α) (actions : α → List Action) :
    raws (items.flatMap actions) = items.flatMap fun item => raws (actions item) :=
  List.filterMap_flatMap

/-- A rendering that takes some actions in order, up to the first one that fails. -/
inductive Takes (escape : Escape) : List Action → Rendering → Prop
  | done (text : Text) : Takes escape [] ⟨[], .ok text⟩
  | pass {raw escaped : Text} {actions : List Action} {calls : List Text}
    {result : Except Failure Text} : escape raw = .ok escaped →
    Takes escape actions ⟨calls, result⟩ →
    Takes escape (.escape raw :: actions) ⟨raw :: calls, result⟩
  | fail {action : Action} {calls : List Text} {failure : Failure} (actions : List Action) :
    action.Fails escape calls failure → Takes escape (action :: actions) ⟨calls, .error failure⟩

namespace Takes

variable {escape : Escape} {actions others : List Action} {a b r : Rendering}

/-- A single escape call, whatever is made of the escaped text. -/
theorem call (escape : Escape) (raw : Text) (written : Text → Text) :
    Takes escape [.escape raw] ⟨[raw], match escape raw with
      | .ok escaped => .ok (written escaped)
      | .error cause => .error (.fault cause)⟩ := by
  cases made : escape raw with
  | ok escaped => exact .pass made (.done (written escaped))
  | error cause => exact .fail [] (.escape made)

/-- What is taken does not depend on the text that is written. -/
theorem map (takes : Takes escape actions r) (f : Text → Text) :
    Takes escape actions ⟨r.calls, r.result.map f⟩ := by
  induction takes with
  | done text => exact .done (f text)
  | pass made _ ih => exact .pass made ih
  | fail actions fails => exact .fail actions fails

/-- Renderings in a row take their actions in a row. -/
theorem andThen (first : Takes escape actions a) (second : Takes escape others b) :
    Takes escape (actions ++ others) (a.andThen b) := by
  induction first with
  | done text => exact second.map (text ++ ·)
  | @pass _ _ _ _ result made _ ih => cases result <;> exact .pass made ih
  | fail actions fails => exact .fail (actions ++ others) fails

/-- A rendering that succeeds has taken all its actions. -/
theorem of_ok (takes : Takes escape actions r) {text : Text} (done : r.result = .ok text) :
    r.calls = raws actions ∧ ∀ action ∈ actions, action.Passes escape := by
  induction takes with
  | done => exact ⟨rfl, nofun⟩
  | pass made _ ih =>
    obtain ⟨calls, passes⟩ := ih done
    exact ⟨congrArg (_ :: ·) calls, List.forall_mem_cons.mpr ⟨.escape made, passes⟩⟩
  | fail => simp at done

/-- A rendering that fails has taken its actions up to the one that fails. -/
theorem of_error (takes : Takes escape actions r) {failure : Failure}
    (failed : r.result = .error failure) :
    ∃ before last after own, actions = before ++ last :: after ∧
      (∀ action ∈ before, action.Passes escape) ∧ last.Fails escape own failure ∧
      r.calls = raws before ++ own := by
  induction takes with
  | done => simp at failed
  | pass made _ ih =>
    obtain ⟨before, last, after, own, rfl, passes, fails, calls⟩ := ih failed
    refine ⟨_ :: before, last, after, own, rfl, ?_, fails, congrArg (_ :: ·) calls⟩
    exact List.forall_mem_cons.mpr ⟨.escape made, passes⟩
  | fail actions fails =>
    obtain rfl := Except.error.inj failed
    exact ⟨[], _, actions, _, rfl, nofun, fails, rfl⟩

theorem calls_prefix (takes : Takes escape actions r) : r.calls <+: raws actions := by
  induction takes with
  | done => exact List.prefix_refl []
  | pass _ _ ih => exact (List.prefix_cons_inj _).mpr ih
  | fail actions fails =>
    cases fails with
    | escape => exact ⟨raws actions, rfl⟩
    | refuse => exact List.nil_prefix

end Takes

namespace Draft

variable {d : Dialect}

theorem takes_string (raw : Text) : Takes d.escape [.escape raw] ((string raw).render d) := by
  rw [render_string]
  exact .call d.escape raw Text.quoted

theorem takes_name (raw : Text) : Takes d.escape [.escape raw] ((name raw).render d) := by
  rw [render_name]
  exact .call d.escape raw d.enclose

theorem takes_sql (text : Text) : Takes d.escape [] ((sql text).render d) := by
  rw [render_sql]
  exact .done text

theorem takes_append {a b : Draft} {actions others : List Action}
    (first : Takes d.escape actions (a.render d)) (second : Takes d.escape others (b.render d)) :
    Takes d.escape (actions ++ others) ((a ++ b).render d) := by
  rw [render_append]
  exact first.andThen second

/-- The template behind a placeholder adds no action. -/
theorem takes_append_sql {draft : Draft} {actions : List Action}
    (takes : Takes d.escape actions (draft.render d)) (text : Text) :
    Takes d.escape actions ((draft ++ sql text).render d) := by
  have both := takes_append takes (takes_sql text)
  rwa [List.append_nil] at both

theorem takes_fail (failure : Failure) :
    Takes d.escape [.refuse failure] ((fail failure).render d) :=
  .fail [] (.refuse failure)

section
variable {α : Type} {draft : α → Draft} {actions : α → List Action} {items : List α}

theorem takes_concat
    (each : ∀ item ∈ items, Takes d.escape (actions item) ((draft item).render d)) :
    Takes d.escape (items.flatMap actions) ((concat (items.map draft)).render d) := by
  induction items with
  | nil => exact .done []
  | cons item items ih =>
    obtain ⟨first, others⟩ := List.forall_mem_cons.mp each
    exact takes_append first (ih others)

/-- The items of a row are taken one after the other. -/
theorem takes_commaSeparated
    (each : ∀ item ∈ items, Takes d.escape (actions item) ((draft item).render d)) :
    Takes d.escape (items.flatMap actions) ((commaSeparated (items.map draft)).render d) := by
  cases items with
  | nil => exact .done []
  | cons item items =>
    obtain ⟨first, others⟩ := List.forall_mem_cons.mp each
    rw [List.map_cons, commaSeparated, List.map_map]
    refine takes_append first (takes_concat fun other among => ?_)
    exact takes_append (takes_sql _) (others other among)

end

end Draft

namespace Value

def text? : Value → Option Text
  | .text t => some t
  | _ => none

/-- The texts that a placeholder of some kind passes to the escape function for its argument, in
order. -/
def handed (v : Value) : Token → List Text
  | .integer | .float => []
  | .any => v.shown?.toList
  | .name =>
    match v with
    | .list items | .tuple items => items.filterMap text?
    | v => v.text?.toList
  | .list =>
    match v with
    | .list items | .tuple items => items.filterMap shown?
    | .mapping _ entries => entries.flatMap fun (key, item) =>
        key.text?.toList ++ item.shown?.toList
    | _ => []

/-- What is done about a value that has to be a text. -/
def nameActions (token : Token) (reason : Text → Mismatch) : Value → List Action
  | .text t => [.escape t]
  | v => [.mismatch token (reason v.typeName)]

/-- What is done about a value that has to be a scalar. -/
def scalarActions (token : Token) (wrap : Mismatch → Mismatch) (v : Value) : List Action :=
  match Format.scalar? v with
  | .ok _ => v.shown?.toList.map .escape
  | .error reason => [.mismatch token (wrap reason)]

/-- What a placeholder of some kind does about its argument, entry by entry: each entry that has a
text is escaped, and each that does not fit is refused. -/
def actions (v : Value) : Token → List Action
  | .integer => (Format.integer v).failure.toList.map .refuse
  | .float => (Format.float v).failure.toList.map .refuse
  | .any => v.scalarActions .any id
  | .name =>
    match v with
    | .list items | .tuple items => items.flatMap (nameActions .name .itemNotAName)
    | v => v.nameActions .name .notAName
  | .list =>
    match v with
    | .list items | .tuple items => items.flatMap (scalarActions .list .element)
    | .mapping _ entries => entries.flatMap fun (key, item) =>
        key.nameActions .list .keyNotAName ++ item.scalarActions .list .element
    | v => [.mismatch .list (.notAList v.typeName)]

theorem raws_nameActions (token : Token) (reason : Text → Mismatch) (v : Value) :
    raws (v.nameActions token reason) = v.text?.toList := by
  cases v <;> rfl

theorem raws_scalarActions (token : Token) (wrap : Mismatch → Mismatch) (v : Value) :
    raws (v.scalarActions token wrap) = v.shown?.toList := by
  unfold scalarActions
  cases known : Format.scalar? v with
  | ok draft => cases v.shown? <;> rfl
  | error reason =>
    -- Only bytes are refused although their type has a text: these bytes spell none.
    have unshown : v.shown? = none := by
      cases Format.scalar?_eq_error_iff.mp known with
      | bytes _ malformed => exact Utf8.decode?_eq_none_iff.mpr malformed
      | _ => rfl
    rw [unshown]
    rfl

theorem raws_refusals (failure : Option Failure) : raws (failure.toList.map .refuse) = [] := by
  cases failure <;> rfl

theorem raws_actions (v : Value) (token : Token) : raws (v.actions token) = v.handed token := by
  cases token with
  | integer => exact raws_refusals _
  | float => exact raws_refusals _
  | any => exact raws_scalarActions .any id v
  | name =>
    cases v with
    | list items | tuple items =>
      simp only [actions, handed, raws_flatMap, raws_nameActions, List.filterMap_eq_flatMap_toList]
    | _ => rfl
  | list =>
    cases v with
    | list items | tuple items =>
      simp only [actions, handed, raws_flatMap, raws_scalarActions,
        List.filterMap_eq_flatMap_toList]
    | mapping kind entries =>
      simp only [actions, handed, raws_flatMap, raws_append, raws_nameActions, raws_scalarActions]
    | _ => rfl

end Value

namespace Format

open Value

variable {d : Dialect}

theorem takes_of_scalar? (token : Token) (wrap : Mismatch → Mismatch) (v : Value) :
    let draft : Draft := match scalar? v with
      | .ok draft => draft
      | .error reason => .mismatch token (wrap reason)
    Takes d.escape (v.scalarActions token wrap) (draft.render d) := by
  unfold scalarActions
  cases known : scalar? v with
  | ok draft =>
    rcases scalar?_cases known with ⟨unshown, text, -, -, rfl⟩ | ⟨text, shown, rfl⟩
    · rw [unshown]
      exact Draft.takes_sql text
    · rw [shown]
      exact Draft.takes_string text
  | error reason => exact Draft.takes_fail _

theorem takes_element (v : Value) :
    Takes d.escape (v.scalarActions .list .element) ((element v).render d) :=
  takes_of_scalar? .list .element v

theorem takes_nameItem (v : Value) :
    Takes d.escape (v.nameActions .name .itemNotAName) ((nameItem v).render d) := by
  cases v with
  | text t => exact Draft.takes_name t
  | _ => exact Draft.takes_fail _

/-- The key of a pair is escaped before its value, and a key that is no name keeps the value from
being looked at. -/
theorem takes_assignment (key item : Value) :
    Takes d.escape (key.nameActions .list .keyNotAName ++ item.scalarActions .list .element)
      ((assignment (key, item)).render d) := by
  cases key with
  | text t =>
    exact Draft.takes_append (Draft.takes_name t)
      (Draft.takes_append (Draft.takes_sql _) (takes_element item))
  | _ =>
    -- The assignment is the refusal of the key alone; the actions of the value are left out.
    exact .fail _ (.refuse _)

/-- The draft of a number takes no action but its failure. -/
theorem DraftsNumber.takes {memory : Nat} {kind : Token} {v : Value} {draft : Draft}
    (drafts : DraftsNumber memory kind v draft) :
    Takes d.escape (draft.failure.toList.map .refuse) (draft.render d) := by
  cases drafts with
  | bare => exact Draft.takes_sql _
  | mismatch | fault => exact Draft.takes_fail _

theorem takes_name (v : Value) : Takes d.escape (v.actions .name) ((name v).render d) := by
  cases v with
  | text t => exact Draft.takes_name t
  | list items | tuple items => exact Draft.takes_commaSeparated fun item _ => takes_nameItem item
  | _ => exact Draft.takes_fail _

theorem takes_list (v : Value) : Takes d.escape (v.actions .list) ((list v).render d) := by
  cases v with
  | list items | tuple items => exact Draft.takes_commaSeparated fun item _ => takes_element item
  | mapping kind entries =>
    exact Draft.takes_commaSeparated fun entry _ => takes_assignment entry.1 entry.2
  | _ => exact Draft.takes_fail _

/-- What a formatter does about its argument. -/
theorem takes_formatter (token : Token) (v : Value) :
    Takes d.escape (v.actions token) ((FormatterTable.formatter token v).render d) := by
  cases token with
  | integer => exact (draftsNumber_integerWithin Decimal.conversionDigits v).takes
  | float => exact (draftsNumber_float Decimal.conversionDigits v).takes
  | list => exact takes_list v
  | name => exact takes_name v
  | any => exact takes_of_scalar? .any id v

end Format

namespace Template

/-- What is done about the argument of one placeholder. -/
def slotActions (blocks : List Span) (slot : Slot) : Value → List Action
  | .skip _ =>
    if blocks.any (·.encloses slot.offset) then [] else [.mismatch slot.token .skipOutsideBlock]
  | v => v.actions slot.token

/-- What is done about the arguments, in the order of the placeholders that bind them; at last a
placeholder without an argument is refused. -/
def actions (text : Text) (args : List Value) : List Action :=
  let slots := (parse text).slots
  (slots.zip args).flatMap (fun (slot, v) => slotActions (blocks text) slot v) ++
    ((slots.drop args.length).head?.toList.map fun slot =>
      .refuse (.query (.insufficientArguments slot.token slot.offset args.length)))

/-- The texts of the arguments, in the order of the placeholders that bind them. -/
def handed (text : Text) (args : List Value) : List Text :=
  ((parse text).slots.zip args).flatMap fun (slot, v) => v.handed slot.token

theorem raws_slotActions (blocks : List Span) (slot : Slot) (v : Value) :
    raws (slotActions blocks slot v) = v.handed slot.token := by
  cases v with
  | skip signal =>
    have none : (Value.skip signal).handed slot.token = [] := by cases slot.token <;> rfl
    rw [none, slotActions]
    split <;> rfl
  | _ => exact Value.raws_actions _ slot.token

theorem raws_actions (text : Text) (args : List Value) :
    raws (actions text args) = handed text args := by
  simp only [actions, handed, raws_append, raws_flatMap, raws_slotActions]
  cases ((parse text).slots.drop args.length).head? <;> simp [raws, Action.raw?]

variable {d : Dialect}

theorem takes_slotDraft (blocks : List Span) (slot : Slot) (v : Value) :
    Takes d.escape (slotActions blocks slot v)
      ((slotDraft .standard blocks slot v).render d) := by
  cases v with
  | skip signal =>
    rw [slotActions, slotDraft]
    split
    · exact .done []
    · exact Draft.takes_fail _
  | _ => exact Format.takes_formatter slot.token _

theorem takes_shortage (slots : List Slot) (supplied : Nat) :
    Takes d.escape
      ((slots.drop supplied).head?.toList.map fun slot =>
        .refuse (.query (.insufficientArguments slot.token slot.offset supplied)))
      ((shortage slots supplied).render d) := by
  rw [shortage]
  cases slots.drop supplied with
  | nil => exact .done []
  | cons slot rest => exact Draft.takes_fail _

/-- A compilation does what has to be done about its arguments, up to the first failure. -/
theorem takes_compile (text : Text) (args : List Value) :
    Takes d.escape (actions text args) (compile .standard d text args) := by
  refine Takes.map (Draft.takes_append (Draft.takes_sql _) (Draft.takes_append ?_ ?_)) _
  · apply Draft.takes_concat
    intro bound _
    exact Draft.takes_append_sql (takes_slotDraft (blocks text) bound.1 bound.2) _
  · exact takes_shortage (parse text).slots args.length

/-- **Every text of an argument is escaped once, in order, and nothing else is.** A compilation that
succeeds has passed exactly the texts of the bound values to the escape function. One that fails has
passed those in front of the value it ends at, and the text of that value if it is the escape call
that failed. So the escape function never sees any text of the template. -/
theorem calls_compile (d : Dialect) (text : Text) (args : List Value) :
    let compiled := compile .standard d text args
    raws (actions text args) = handed text args ∧
      (∀ sql, compiled.result = .ok sql →
        compiled.calls = handed text args ∧
          ∀ action ∈ actions text args, action.Passes d.escape) ∧
      (∀ failure, compiled.result = .error failure →
        ∃ before last after own, actions text args = before ++ last :: after ∧
          (∀ action ∈ before, action.Passes d.escape) ∧ last.Fails d.escape own failure ∧
          compiled.calls = raws before ++ own) ∧
      compiled.calls <+: handed text args := by
  have takes : Takes d.escape (actions text args) (compile .standard d text args) :=
    takes_compile text args
  have same : raws (actions text args) = handed text args := raws_actions text args
  refine ⟨same, ?_, ?_, ?_⟩
  · intro sql done
    rw [← same]
    exact takes.of_ok done
  · intro failure failed
    exact takes.of_error failed
  · rw [← same]
    exact takes.calls_prefix

/-- The value behind the text that cannot be escaped is not reached. -/
example :
    let escape : Escape := fun t => if t = "b" then .error (.runtime "no") else .ok t
    (compile .standard ⟨escape, Dialect.backquote⟩ "? ?a ?"
      [.text "x", .mapping .plain [(.text "a", .text "y"), (.text "b", .text "z")]]).calls =
        ["x", "a", "y", "b"] := by
  rfl

end Template

end SqlTemplate
