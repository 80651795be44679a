import SqlTemplate.Proofs.LiteralReading
import SqlTemplate.Proofs.NameReading

/-!
# Reading lists back

A reader of SQL takes an item that begins with a quote to be one string literal and any other item
to run to the next comma. Under the default dialect it reads what `?a` writes item by item: the
literals of the elements of a list, and the names and literals of the pairs of a mapping
(`ListItem.read_list`). So no element can forge, hide or merge a separator.
-/

namespace SqlTemplate

/-- What follows a literal is shorter than the text that it was read from. -/
theorem StringLiteral.readBody?_shorter {t value rest : Text}
    (read : readBody? t = some (value, rest)) : rest.length < t.length := by
  fun_induction readBody? t generalizing value with
  | case1 => simp at read
  | case2 => simp_all
  | case4 d tail =>
    obtain ⟨-, rfl⟩ := Prod.mk.inj (Option.some.inj read)
    simp
  | case5 => simp at read
  | case3 tail ih | case6 d tail _ ih | case7 c tail _ _ ih =>
    obtain ⟨value, found, -⟩ := map_fst_eq_some.mp read
    have := ih found
    simp only [List.length_cons]
    omega

namespace ListItem

/-- The item that a text begins with, as it is written there, and what follows it. -/
def read? : Text → Option (Text × Text)
  | [] => none
  | c :: rest =>
    if c = '\x27' then
      (StringLiteral.readBody? rest).map fun (_, behind) =>
        ((c :: rest).take ((c :: rest).length - behind.length), behind)
    else if c = ',' then none
    else some ((c :: rest).takeWhile (· ≠ ','), (c :: rest).dropWhile (· ≠ ','))

theorem read?_shorter {t item rest : Text} (found : read? t = some (item, rest)) :
    rest.length < t.length := by
  cases t with
  | nil => simp [read?] at found
  | cons c t =>
    rw [List.length_cons]
    by_cases quote : c = '\x27'
    · rw [read?, if_pos quote] at found
      obtain ⟨⟨value, behind⟩, literal, same⟩ := Option.map_eq_some_iff.mp found
      obtain ⟨-, rfl⟩ := Prod.mk.inj same
      have := StringLiteral.readBody?_shorter literal
      omega
    · by_cases comma : c = ','
      · rw [read?, if_neg quote, if_pos comma] at found
        simp at found
      · rw [read?, if_neg quote, if_neg comma] at found
        obtain ⟨-, rfl⟩ := Prod.mk.inj (Option.some.inj found)
        rw [List.dropWhile_cons_of_pos (by simpa using comma)]
        have := (List.dropWhile_suffix (l := t) (· ≠ CodePoint.ofChar ',')).length_le
        omega

def reader : Reader Text :=
  ⟨read?, read?_shorter⟩

variable {rest : Text}

theorem head?_ne (follows : Reader.Follows [] rest) {c : CodePoint} (other : c ≠ ',') :
    rest.head? ≠ some c := by
  rcases follows with rfl | ⟨next, rfl⟩
  · simp
  · intro begins
    exact other (Option.some.inj begins).symm

theorem read?_quoted (t : Text) (follows : Reader.Follows [] rest) :
    read? ((Dialect.escapeText t).quoted ++ rest) = some ((Dialect.escapeText t).quoted, rest) := by
  have whole : (Dialect.escapeText t).quoted ++ rest =
      CodePoint.ofChar '\x27' :: (Dialect.escapeText t ++ CodePoint.ofChar '\x27' :: rest) := by
    simp [Text.quoted]
  have body := StringLiteral.readBody?_escapeText t (head?_ne follows (by decide))
  have taken : ((Dialect.escapeText t).quoted ++ rest).take
      (((Dialect.escapeText t).quoted ++ rest).length - rest.length) =
        (Dialect.escapeText t).quoted := by
    rw [List.length_append, Nat.add_sub_cancel, List.take_left]
  rw [whole, read?, if_pos rfl, body, Option.map_some, ← whole]
  simp only [taken]

theorem read?_bare {text : Text} (bare : text.Bare) (filled : text ≠ [])
    (follows : Reader.Follows [] rest) : read? (text ++ rest) = some (text, rest) := by
  have uncut : ∀ c ∈ text, decide (c ≠ CodePoint.ofChar ',') = true := by
    intro c mem
    have letter := bare c mem
    apply decide_eq_true
    rintro rfl
    exact absurd letter (by decide)
  have unquoted : ∀ c ∈ text, c ≠ CodePoint.ofChar '\x27' := by
    intro c mem quote
    exact bare.not_isQuote c mem (.inl quote)
  have stops : rest.takeWhile (· ≠ CodePoint.ofChar ',') = [] ∧
      rest.dropWhile (· ≠ CodePoint.ofChar ',') = rest := by
    rcases follows with rfl | ⟨next, rfl⟩
    · exact ⟨rfl, rfl⟩
    · exact ⟨rfl, rfl⟩
  cases text with
  | nil => exact absurd rfl filled
  | cons c text =>
    have first := unquoted c List.mem_cons_self
    have first' := of_decide_eq_true (uncut c List.mem_cons_self)
    rw [List.cons_append, read?, if_neg first, if_neg first', ← List.cons_append,
      List.takeWhile_append_of_pos uncut, List.dropWhile_append_of_pos uncut, stops.1, stops.2,
      List.append_nil]

/-- The literal of a value is read as one item. -/
theorem read?_literal {v : Value} {literal : Text}
    (written : ((Format.scalar v).render .default).result = .ok literal)
    (follows : Reader.Follows [] rest) : read? (literal ++ rest) = some (literal, rest) := by
  unfold Format.scalar at written
  split at written
  · next draft known =>
    rcases Format.scalar?_cases known with ⟨-, text, bare, filled, rfl⟩ | ⟨t, -, rfl⟩
    · rw [Draft.render_sql] at written
      obtain rfl := Except.ok.inj written
      exact read?_bare bare filled follows
    · rw [Draft.render_string] at written
      obtain rfl := Except.ok.inj written
      exact read?_quoted t follows
  · simp at written

end ListItem

/-- An element is written as the value by itself, if it is written at all. -/
theorem Format.result_element_eq_ok {d : Dialect} {v : Value} {literal : Text} :
    ((element v).render d).result = .ok literal ↔ ((scalar v).render d).result = .ok literal := by
  unfold element scalar
  cases scalar? v with
  | ok draft => rfl
  | error reason => simp

namespace Assignment

/-- The name and the item of the assignment that a text begins with, and what follows it. -/
def read? (t : Text) : Option ((Text × Text) × Text) :=
  match QuotedName.read? Dialect.backquote t with
  | none => none
  | some (name, rest) =>
    match Text.after? " = " rest with
    | none => none
    | some next => (ListItem.read? next).map fun (item, rest) => ((name, item), rest)

theorem read?_shorter {t : Text} {pair : Text × Text} {rest : Text}
    (found : read? t = some (pair, rest)) : rest.length < t.length := by
  unfold read? at found
  split at found
  · simp at found
  · next name behind first =>
    split at found
    · simp at found
    · next next sign =>
      obtain ⟨item, second, -⟩ := map_fst_eq_some.mp found
      have shorter := (QuotedName.reader Dialect.backquote).shorter first
      have shorter' := ListItem.read?_shorter second
      have length := congrArg List.length (Text.after?_eq_some_iff.mp sign)
      rw [List.length_append] at length
      omega

def reader : Reader (Text × Text) :=
  ⟨read?, read?_shorter⟩

/-- A pair of a name and a literal as an assignment. -/
def text (pair : Text × Text) : Text :=
  Dialect.default.enclose pair.1 ++ (Text.ofString " = " ++ pair.2)

theorem read?_text {v : Value} {pair : Text × Text} {rest : Text}
    (written : ((Format.scalar v).render .default).result = .ok pair.2)
    (follows : Reader.Follows [] rest) : read? (text pair ++ rest) = some (pair, rest) := by
  have whole : text pair ++ rest = Dialect.default.enclose pair.1 ++
      (Text.ofString " = " ++ (pair.2 ++ rest)) := by
    simp [text]
  have apart : (Text.ofString " = " ++ (pair.2 ++ rest)).head? ≠ some Dialect.default.quote := by
    intro begins
    have blank : CodePoint.ofChar ' ' = Dialect.default.quote := Option.some.inj begins
    exact absurd blank (by decide)
  have name : QuotedName.read? Dialect.backquote (text pair ++ rest) =
      some (pair.1, Text.ofString " = " ++ (pair.2 ++ rest)) := by
    rw [whole]
    exact QuotedName.read?_enclose pair.1 apart
  have sign : Text.after? " = " (Text.ofString " = " ++ (pair.2 ++ rest)) =
      some (pair.2 ++ rest) :=
    Text.after?_eq_some_iff.mpr rfl
  rw [read?, name]
  simp only [sign, ListItem.read?_literal written follows, Option.map_some]

/-- The name and the literal that an entry of a mapping is written as. -/
def Writes (entry : Value × Value) (pair : Text × Text) : Prop :=
  ∃ key, entry.1 = .text key ∧ pair.1 = Dialect.escapeText key ∧
    ((Format.scalar entry.2).render .default).result = .ok pair.2

theorem result_assignment_eq_ok {entry : Value × Value} {sql : Text} :
    ((Format.assignment entry).render .default).result = .ok sql ↔
      ∃ pair, Writes entry pair ∧ sql = text pair := by
  obtain ⟨key, v⟩ := entry
  constructor
  · intro written
    unfold Format.assignment at written
    split at written
    · next key v same =>
      obtain ⟨rfl, rfl⟩ := Prod.mk.inj same
      rw [Draft.render_append, Rendering.result_andThen_eq_ok] at written
      obtain ⟨name, _, named, assigned, rfl⟩ := written
      rw [Draft.result_sql_append, map_eq_ok] at assigned
      obtain ⟨literal, element, rfl⟩ := assigned
      rw [QuotedName.result_name rfl] at named
      obtain rfl := Except.ok.inj named
      have scalar := Format.result_element_eq_ok.mp element
      exact ⟨(Dialect.escapeText key, literal), ⟨key, rfl, rfl, scalar⟩, rfl⟩
    · simp at written
  · rintro ⟨⟨name, literal⟩, ⟨key, rfl, rfl, scalar⟩, rfl⟩
    rw [Format.assignment, Draft.render_append, Rendering.result_andThen_eq_ok]
    refine ⟨_, _, QuotedName.result_name rfl, ?_, rfl⟩
    rw [Draft.result_sql_append, Format.result_element_eq_ok.mpr scalar]
    rfl

end Assignment

namespace ListItem

theorem all?_elements {items : List Value} {sql : Text}
    (written : ((Draft.commaSeparated (items.map Format.element)).render .default).result =
      .ok sql) :
    ∃ literals, List.Forall₂ (fun item literal =>
        ((Format.scalar item).render .default).result = .ok literal) items literals ∧
      reader.all? sql = some literals := by
  obtain ⟨literals, each, rfl⟩ := Draft.result_commaSeparated_eq_ok.mp written
  have scalars := each.imp fun _ _ => Format.result_element_eq_ok.mp
  refine ⟨literals, scalars, Reader.all?_join ?_⟩
  clear written each
  induction scalars with
  | nil => exact .nil
  | cons scalar _ ih => exact .cons (fun behind follows => read?_literal scalar follows) ih

theorem all?_assignments {entries : List (Value × Value)} {sql : Text}
    (written : ((Draft.commaSeparated (entries.map Format.assignment)).render .default).result =
      .ok sql) :
    ∃ pairs, List.Forall₂ Assignment.Writes entries pairs ∧
      Assignment.reader.all? sql = some pairs := by
  obtain ⟨texts, each, rfl⟩ := Draft.result_commaSeparated_eq_ok.mp written
  have pairs : ∃ pairs, List.Forall₂ Assignment.Writes entries pairs ∧
      List.Forall₂ (fun pair text => ∀ behind, Reader.Follows [] behind →
        Assignment.reader.read? (text ++ behind) = some (pair, behind)) pairs texts := by
    clear written
    induction each with
    | nil => exact ⟨[], .nil, .nil⟩
    | cons assigned _ ih =>
      obtain ⟨pairs, writes, reads⟩ := ih
      obtain ⟨pair, first, rfl⟩ := Assignment.result_assignment_eq_ok.mp assigned
      have read := first
      obtain ⟨key, -, -, scalar⟩ := read
      exact ⟨pair :: pairs, .cons first writes,
        .cons (fun behind follows => Assignment.read?_text scalar follows) reads⟩
  obtain ⟨pairs, writes, reads⟩ := pairs
  exact ⟨pairs, writes, Reader.all?_join reads⟩

/-- **What `?a` writes is read back item by item.** A list is read as the literals of its elements
and a mapping as the escaped names and the literals of its pairs, in order and none more or less;
only of an empty one nothing is written. -/
theorem read_list :
    let written (format : Formatter) (v : Value) : Except Failure Text :=
      ((format v).render .default).result
    (∀ v items sql, (v = .list items ∨ v = .tuple items) → written Format.list v = .ok sql →
      ∃ literals, List.Forall₂ (fun item literal => written Format.scalar item = .ok literal)
          items literals ∧
        reader.all? sql = some literals) ∧
    (∀ kind entries sql, written Format.list (.mapping kind entries) = .ok sql →
      ∃ pairs, List.Forall₂ Assignment.Writes entries pairs ∧
        Assignment.reader.all? sql = some pairs) ∧
    ∀ v, written Format.list v = .ok [] ↔
      v = .list [] ∨ v = .tuple [] ∨ ∃ kind, v = .mapping kind [] := by
  intro written
  have lists : ∀ v items sql, (v = .list items ∨ v = .tuple items) →
      written Format.list v = .ok sql →
      ∃ literals, List.Forall₂ (fun item literal => written Format.scalar item = .ok literal)
          items literals ∧
        reader.all? sql = some literals := by
    rintro v items sql (rfl | rfl) wrote
    · exact all?_elements wrote
    · exact all?_elements wrote
  refine ⟨lists, fun kind entries sql => all?_assignments, fun v => ⟨?_, ?_⟩⟩
  · intro wrote
    cases v with
    | list items =>
      obtain ⟨literals, each, read⟩ := lists _ items [] (.inl rfl) wrote
      obtain rfl : [] = literals := Option.some.inj read
      exact .inl (congrArg _ (List.forall₂_nil_right_iff.mp each))
    | tuple items =>
      obtain ⟨literals, each, read⟩ := lists _ items [] (.inr rfl) wrote
      obtain rfl : [] = literals := Option.some.inj read
      exact .inr (.inl (congrArg _ (List.forall₂_nil_right_iff.mp each)))
    | mapping kind entries =>
      obtain ⟨pairs, each, read⟩ := all?_assignments wrote
      obtain rfl : [] = pairs := Option.some.inj read
      exact .inr (.inr ⟨kind, congrArg _ (List.forall₂_nil_right_iff.mp each)⟩)
    | _ => simp [written, Format.list] at wrote
  · rintro (rfl | rfl | ⟨kind, rfl⟩)
    all_goals rfl

/-- A key and a value that look like a separator stay within their own pair. -/
theorem read_list_separators :
    let v : Value := .mapping .plain [(.text "a\x60, b", .text "c, d\x27"), (.text "", .null)]
    let sql : Text := "\x60a\x60\x60, b\x60 = \x27c, d\\\x27\x27, \x60\x60 = NULL"
    let pairs : List (Text × Text) := [("a\x60, b", "\x27c, d\\\x27\x27"), ("", "NULL")]
    ((Format.list v).render .default).result = .ok sql ∧
      Assignment.reader.all? sql = some pairs := by
  intro v sql pairs
  have wrote : ((Format.list v).render .default).result = .ok sql := rfl
  obtain ⟨found, each, read⟩ := read_list.2.1 .plain _ sql wrote
  have same : found = pairs := by
    cases each with
    | @cons _ first _ _ writes each =>
      cases each with
      | @cons _ second _ _ writes' each =>
        cases each
        obtain ⟨_, ⟨⟩, name, literal⟩ := writes
        obtain ⟨_, ⟨⟩, name', literal'⟩ := writes'
        have one : first = (_, _) := Prod.ext name (Except.ok.inj literal).symm
        have two : second = (_, _) := Prod.ext name' (Except.ok.inj literal').symm
        rw [one, two]
        rfl
  exact ⟨wrote, same ▸ read⟩

end ListItem

end SqlTemplate
