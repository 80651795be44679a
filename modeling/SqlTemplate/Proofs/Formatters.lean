import SqlTemplate.Format.Table
import SqlTemplate.Proofs.NumberText
import SqlTemplate.Proofs.Rendering

/-!
# What the formatters draft

Numbers are drafted bare, everything else as strings and names that the argument holds. So a draft
is put together from ASCII text and the texts of its argument, up to a mismatch
(`Format.built_formatter`). Only a number that cannot be converted ends it in a fault
(`Format.Faulty`).
-/

namespace SqlTemplate

namespace Value

/-- The string that stands for a value in a query, unless the value is written bare. -/
def shown? : Value → Option Text
  | .text t => some t
  | .bytes _ content => Utf8.decode? content
  | .date d => some d.text
  | .dateTime d => some d.text
  | .time t => some t.text
  | .object _ shown => some shown
  | _ => none

mutual

/-- The strings in a value, also those in containers and the keys of mappings. -/
def texts : Value → List Text
  | .list items | .tuple items | .set _ items => itemTexts items
  | .mapping _ entries => entryTexts entries
  | v => v.shown?.toList

def itemTexts : List Value → List Text
  | [] => []
  | item :: rest => texts item ++ itemTexts rest

def entryTexts : List (Value × Value) → List Text
  | [] => []
  | (key, item) :: rest => texts key ++ texts item ++ entryTexts rest

end

theorem mem_itemTexts {items : List Value} {t : Text} :
    t ∈ itemTexts items ↔ ∃ item ∈ items, t ∈ item.texts := by
  induction items with
  | nil => simp [itemTexts]
  | cons item items ih => simp [itemTexts, ih]

theorem mem_entryTexts {entries : List (Value × Value)} {t : Text} :
    t ∈ entryTexts entries ↔ ∃ entry ∈ entries, t ∈ entry.1.texts ∨ t ∈ entry.2.texts := by
  induction entries with
  | nil => simp [entryTexts]
  | cons entry entries ih => simp [entryTexts, ih, or_assoc]

theorem mem_texts_of_shown? {v : Value} {t : Text} (shown : v.shown? = some t) : t ∈ v.texts := by
  cases v <;> simp_all [shown?, texts]

end Value

namespace Draft

/-- A draft put together from ASCII text and some strings and names, up to a mismatch. -/
inductive Built (texts : List Text) : Draft → Prop
  | empty : Built texts empty
  | sql {text : Text} : text.Ascii → Built texts (sql text)
  | string {text : Text} : text ∈ texts → Built texts (string text)
  | name {text : Text} : text ∈ texts → Built texts (name text)
  | mismatch (token : Token) (reason : Mismatch) : Built texts (mismatch token reason)
  | append {a b : Draft} : Built texts a → Built texts b → Built texts (a ++ b)

namespace Built

variable {texts : List Text} {drafts : List Draft}

theorem concat (each : ∀ draft ∈ drafts, Built texts draft) : Built texts (concat drafts) := by
  induction drafts with
  | nil => exact .empty
  | cons draft drafts ih =>
    obtain ⟨first, others⟩ := List.forall_mem_cons.mp each
    exact first.append (ih others)

theorem commaSeparated (each : ∀ draft ∈ drafts, Built texts draft) :
    Built texts (commaSeparated drafts) := by
  cases drafts with
  | nil => exact .empty
  | cons draft drafts =>
    obtain ⟨first, others⟩ := List.forall_mem_cons.mp each
    refine first.append (.concat fun separated among => ?_)
    obtain ⟨other, mem, rfl⟩ := List.mem_map.mp among
    exact .append (.sql (by decide)) (others other mem)

/-- A draft put together from texts ends in a mismatch, if in anything. -/
theorem failure_eq_mismatch {draft : Draft} (built : Built texts draft) {failure : Failure}
    (failed : draft.failure = some failure) :
    ∃ token reason, failure = .query (.typeMismatch token reason) := by
  induction built with
  | empty | sql | string | name => nomatch failed
  | mismatch token reason => exact ⟨token, reason, (Option.some.inj failed).symm⟩
  | @append a b _ _ first second =>
    obtain ⟨parts, cause⟩ := a
    cases cause with
    | none => exact second failed
    | some cause => exact first failed

end Built

end Draft

namespace Format

open Draft

/-- The scalar literal of a value is the string it shows, or a bare text if it shows none. -/
theorem scalar?_cases {v : Value} {draft : Draft} (known : scalar? v = .ok draft) :
    (v.shown? = none ∧ ∃ text : Text, text.Bare ∧ text ≠ [] ∧ draft = .sql text) ∨
      ∃ text, v.shown? = some text ∧ draft = .string text := by
  cases v with
  | null =>
    cases known
    exact .inl ⟨rfl, _, bare_nullText, by decide, rfl⟩
  | bool b =>
    cases known
    exact .inl ⟨rfl, _, by cases b <;> decide, by cases b <;> decide, rfl⟩
  | int n =>
    rw [scalar?] at known
    obtain ⟨numeral, made, rfl⟩ := map_eq_ok.mp known
    exact .inl ⟨rfl, numeral, bare_integerText made, integerText_ne_nil made, rfl⟩
  | float x =>
    simp only [scalar?] at known
    split at known <;> cases known
    exact .inl ⟨rfl, _, x.bare_text, x.text_ne_nil, rfl⟩
  | decimal d =>
    simp only [scalar?] at known
    split at known <;> cases known
    exact .inl ⟨rfl, _, d.bare_text, d.text_ne_nil, rfl⟩
  | bytes mutable content =>
    simp only [scalar?] at known
    split at known
    · next decoded =>
      cases known
      exact .inr ⟨_, decoded, rfl⟩
    · simp at known
  | text | date | dateTime | time | object =>
    cases known
    exact .inr ⟨_, rfl, rfl⟩
  | list | tuple | set | mapping | skip => simp [scalar?] at known

/-- The arguments that a placeholder of some kind cannot convert, with the fault they end in. They
are decimals: `?f` has no float for a signaling NaN, and `?d` forms no integer that is too long for
the memory there is. -/
inductive Faulty (memory : Nat) : Token → Value → Fault → Prop
  | signalingNaN (negative : Bool) (payload : Nat) :
    Faulty memory .float (.decimal (.nan negative true payload)) .signalingNaN
  | outOfMemory (negative : Bool) {coefficient : Nat} {exponent : Int} :
    Decimal.formableDigits memory < Decimal.integerPlaces coefficient exponent →
    Faulty memory .integer (.decimal (.finite negative coefficient exponent)) .outOfMemory

variable {memory : Nat}

theorem Faulty.formatter_eq {kind : Token} {v : Value} {cause : Fault}
    (faulty : Faulty memory kind v cause) :
    FormatterTable.formatterWithin memory kind v = .fail (.fault cause) := by
  cases faulty with
  | signalingNaN => rfl
  | @outOfMemory negative coefficient exponent long =>
    have failed : truncated memory (.decimal (.finite negative coefficient exponent)) =
        .error (.fault .outOfMemory) := if_pos long
    rw [FormatterTable.formatterWithin, integerWithin]
    exact number_of_failed (by simp) rfl failed

/-- Only a decimal is read as one. -/
theorem quantity?_eq_decimal {v : Value} {d : Decimal} (read : quantity? v = .ok (.decimal d)) :
    v = .decimal d := by
  cases v with
  | text t => cases known : Reading.ofText t <;> simp [quantity?, Quantity.ofReading, known] at read
  | decimal => simpa [quantity?] using read
  | _ => simp [quantity?] at read

/-- What a conversion for a placeholder can come to. -/
inductive Converted (memory : Nat) (kind : Token) (quantity : Quantity) {α : Type} :
    Except Failure α → Prop
  | ok (a : α) : Converted memory kind quantity (.ok a)
  | mismatch (reason : Mismatch) :
    Converted memory kind quantity (.error (.query (.typeMismatch kind reason)))
  | fault {d : Decimal} {cause : Fault} :
    quantity = .decimal d → Faulty memory kind (.decimal d) cause →
    Converted memory kind quantity (.error (.fault cause))

theorem converted_truncated (quantity : Quantity) :
    Converted memory .integer quantity (truncated memory quantity) := by
  cases quantity with
  | integer n => exact .ok n
  | float x =>
    rw [truncated]
    split
    · exact .ok _
    · exact .mismatch _
  | decimal d =>
    cases d with
    | finite negative coefficient exponent =>
      rw [truncated]
      split
      · next long => exact .fault rfl (.outOfMemory negative long)
      · split
        · exact .ok _
        · exact .mismatch _
    | infinity | nan => exact .mismatch _

theorem converted_nearestFloat (quantity : Quantity) :
    Converted memory .float quantity (nearestFloat quantity) := by
  cases quantity with
  | integer n =>
    rw [nearestFloat]
    split
    · exact .ok _
    · exact .mismatch _
  | float x => exact .ok x
  | decimal d =>
    cases d with
    | finite | infinity => exact .ok _
    | nan negative signaling payload =>
      cases signaling with
      | false => exact .ok _
      | true => exact .fault rfl (.signalingNaN negative payload)

/-- What can be drafted for a number: a bare text, a mismatch, or the fault of its conversion. -/
inductive DraftsNumber (memory : Nat) (kind : Token) (v : Value) : Draft → Prop
  | bare {t : Text} : t.Bare → DraftsNumber memory kind v (.sql t)
  | mismatch (reason : Mismatch) : DraftsNumber memory kind v (.mismatch kind reason)
  | fault {cause : Fault} :
    Faulty memory kind v cause → DraftsNumber memory kind v (.fail (.fault cause))

theorem draftsNumber_number {α : Type} {kind : Token} {convert : Quantity → Except Failure α}
    {write : α → Except Mismatch Text}
    (converted : ∀ quantity, Converted memory kind quantity (convert quantity))
    (bare : ∀ a t, write a = .ok t → t.Bare) (v : Value) :
    DraftsNumber memory kind v (number kind convert write v) := by
  by_cases null : v = .null
  · rw [null]
    exact .bare bare_nullText
  cases read : quantity? v with
  | error reason =>
    rw [number_of_unread null read]
    exact .mismatch reason
  | ok quantity =>
    cases converts : convert quantity with
    | ok a =>
      rw [number_of_converted null read converts]
      cases written : write a with
      | error reason => exact .mismatch reason
      | ok t => exact .bare (bare a t written)
    | error failure =>
      have known := converted quantity
      rw [converts] at known
      rw [number_of_failed null read converts]
      cases known with
      | mismatch reason => exact .mismatch reason
      | fault decimal faulty =>
        subst decimal
        exact .fault (quantity?_eq_decimal read ▸ faulty)

theorem draftsNumber_integerWithin (memory : Nat) (v : Value) :
    DraftsNumber memory .integer v (integerWithin memory v) :=
  draftsNumber_number converted_truncated (fun _ _ => bare_integerText) v

theorem draftsNumber_float (memory : Nat) (v : Value) :
    DraftsNumber memory .float v (float v) := by
  refine draftsNumber_number converted_nearestFloat (fun x t written => ?_) v
  unfold finiteText at written
  split at written <;> cases written
  exact x.bare_text

section
variable {texts : List Text} {v : Value}

theorem built_of_scalar? {draft : Draft} (known : scalar? v = .ok draft) (held : v.texts ⊆ texts) :
    Built texts draft := by
  rcases scalar?_cases known with ⟨-, text, bare, -, rfl⟩ | ⟨text, shown, rfl⟩
  · exact .sql bare.ascii
  · exact .string (held (Value.mem_texts_of_shown? shown))

theorem built_scalar (held : v.texts ⊆ texts) : Built texts (scalar v) := by
  unfold scalar
  split
  · next known => exact built_of_scalar? known held
  · exact .mismatch _ _

theorem built_element (held : v.texts ⊆ texts) : Built texts (element v) := by
  unfold element
  split
  · next known => exact built_of_scalar? known held
  · exact .mismatch _ _

theorem built_nameItem (held : v.texts ⊆ texts) : Built texts (nameItem v) := by
  unfold nameItem
  split
  · exact .name (held (Value.mem_texts_of_shown? rfl))
  · exact .mismatch _ _

theorem built_assignment {entry : Value × Value} (key : entry.1.texts ⊆ texts)
    (held : entry.2.texts ⊆ texts) : Built texts (assignment entry) := by
  unfold assignment
  split
  · exact .append (.name (key (Value.mem_texts_of_shown? rfl)))
      (.append (.sql (by decide)) (built_element held))
  · exact .mismatch _ _

end

/-- A formatter of items, applied to each item of a container. -/
theorem built_items {items : List Value} {draft : Value → Draft}
    (each : ∀ {texts : List Text} {v : Value}, v.texts ⊆ texts → Built texts (draft v)) :
    Built (Value.itemTexts items) (commaSeparated (items.map draft)) := by
  refine .commaSeparated (List.forall_mem_map.mpr fun item among => each ?_)
  exact fun t mem => Value.mem_itemTexts.mpr ⟨item, among, mem⟩

theorem built_name (v : Value) : Built v.texts (name v) := by
  unfold name
  split
  · exact .name (Value.mem_texts_of_shown? rfl)
  · exact built_items built_nameItem
  · exact built_items built_nameItem
  · exact .mismatch _ _

theorem built_list (v : Value) : Built v.texts (list v) := by
  unfold list
  split
  · refine .commaSeparated (List.forall_mem_map.mpr fun entry among => built_assignment ?_ ?_)
    · exact fun _ mem => Value.mem_entryTexts.mpr ⟨entry, among, .inl mem⟩
    · exact fun _ mem => Value.mem_entryTexts.mpr ⟨entry, among, .inr mem⟩
  · exact built_items built_element
  · exact built_items built_element
  · exact .mismatch _ _

theorem DraftsNumber.built {kind : Token} {v : Value} {draft : Draft}
    (drafts : DraftsNumber memory kind v draft) (sound : ∀ cause, ¬ Faulty memory kind v cause) :
    Built v.texts draft := by
  cases drafts with
  | bare text => exact .sql text.ascii
  | mismatch reason => exact .mismatch kind reason
  | fault faulty => exact absurd faulty (sound _)

/-- **What a formatter drafts** is put together from ASCII text and from texts of its argument, up
to a mismatch, unless the argument cannot be converted. -/
theorem built_formatter {kind : Token} {v : Value}
    (sound : ∀ cause, ¬ Faulty memory kind v cause) :
    Built v.texts (FormatterTable.formatterWithin memory kind v) := by
  cases kind with
  | integer => exact (draftsNumber_integerWithin memory v).built sound
  | float => exact (draftsNumber_float memory v).built sound
  | list => exact built_list v
  | name => exact built_name v
  | any => exact built_scalar (List.Subset.refl _)

/-- A formatter refuses a value as a mismatch, unless this cannot be converted. -/
theorem formatter_failure {kind : Token} {v : Value} {failure : Failure}
    (failed : (FormatterTable.formatterWithin memory kind v).failure = some failure) :
    (∃ token reason, failure = .query (.typeMismatch token reason)) ∨
      ∃ cause, Faulty memory kind v cause ∧ failure = .fault cause := by
  by_cases faulty : ∃ cause, Faulty memory kind v cause
  · obtain ⟨cause, faulty⟩ := faulty
    rw [faulty.formatter_eq] at failed
    exact .inr ⟨cause, faulty, (Option.some.inj failed).symm⟩
  · have built := built_formatter fun cause found => faulty ⟨cause, found⟩
    exact .inl (built.failure_eq_mismatch failed)

end Format

/-- A table of the known formatters, under whatever kinds and as far as it goes, for any memory. -/
def FormatterTable.Known (table : FormatterTable) : Prop :=
  ∀ token format, table token = some format → ∃ memory kind, format = formatterWithin memory kind

namespace FormatterTable

theorem known_standard : standard.Known :=
  fun token _ found => ⟨_, token, (Option.some.inj found).symm⟩

theorem Known.without {table : FormatterTable} (known : table.Known) (dropped : Token) :
    (table.without dropped).Known := by
  intro token format found
  unfold FormatterTable.without at found
  split at found
  · simp at found
  · exact known token format found

end FormatterTable

end SqlTemplate
