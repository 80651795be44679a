import SqlTemplate.Format.Container
import SqlTemplate.Proofs.Separated

/-!
# Reading names back

A reader of SQL takes a doubled quote in a quoted name for one quote, and the name to end at the
first quote that stands alone. It reads exactly the texts that a name is written as
(`QuotedName.readBody?_eq_some_iff`), whatever the quote is and however names are escaped. A list is
read name by name (`QuotedName.read_name`), unless the quote is the comma that separates the names.
-/

namespace SqlTemplate

namespace QuotedName

variable {quote : CodePoint} {rest : Text}

/-- The name whose quote has been opened in front of a text, and what follows its closing quote. -/
def readBody? (quote : CodePoint) : Text → Option (Text × Text)
  | [] => none
  | c :: rest =>
    if c = quote then
      match rest with
      | [] => some ([], [])
      | d :: rest =>
        if d = quote then (readBody? quote rest).map fun (name, rest) => (c :: name, rest)
        else some ([], d :: rest)
    else (readBody? quote rest).map fun (name, rest) => (c :: name, rest)

/-- The name that a text begins with, and what follows it. -/
def read? (quote : CodePoint) : Text → Option (Text × Text)
  | [] => none
  | c :: rest => if c = quote then readBody? quote rest else none

theorem readBody?_quote (ends : rest.head? ≠ some quote) :
    readBody? quote (quote :: rest) = some ([], rest) := by
  cases rest with
  | nil => simp [readBody?]
  | cons d rest =>
    have other : d ≠ quote := by simpa using ends
    simp [readBody?, other]

theorem readBody?_doubled_quote (rest : Text) :
    readBody? quote (quote :: quote :: rest) =
      (readBody? quote rest).map fun (name, rest) => (quote :: name, rest) := by
  simp [readBody?]

theorem readBody?_plain {c : CodePoint} (plain : c ≠ quote) (rest : Text) :
    readBody? quote (c :: rest) =
      (readBody? quote rest).map fun (name, rest) => (c :: name, rest) := by
  rw [readBody?.eq_def]
  simp [plain]

theorem readBody?_doubled (name : Text) (ends : rest.head? ≠ some quote) :
    readBody? quote (Dialect.doubled quote name ++ quote :: rest) = some (name, rest) := by
  induction name with
  | nil => exact readBody?_quote ends
  | cons c name ih =>
    by_cases same : c = quote
    · subst same
      have twice : Dialect.doubled c (c :: name) = c :: c :: Dialect.doubled c name := by
        simp [Dialect.doubled]
      rw [twice, List.cons_append, List.cons_append, readBody?_doubled_quote, ih]
      rfl
    · have once : Dialect.doubled quote (c :: name) = c :: Dialect.doubled quote name := by
        simp [Dialect.doubled, same]
      rw [once, List.cons_append, readBody?_plain same, ih]
      rfl

/-- A text is read as the name that it was written as, and no other text is read. -/
theorem readBody?_eq_some_iff {t name : Text} :
    readBody? quote t = some (name, rest) ↔
      t = Dialect.doubled quote name ++ quote :: rest ∧ rest.head? ≠ some quote := by
  constructor
  · intro read
    fun_induction readBody? quote t generalizing name with
    | case1 => simp at read
    | case2 => simp_all [Dialect.doubled]
    | case3 tail ih =>
      obtain ⟨name, found, rfl⟩ := map_fst_eq_some.mp read
      obtain ⟨rfl, ends⟩ := ih found
      exact ⟨by simp [Dialect.doubled], ends⟩
    | case4 d tail other =>
      obtain ⟨rfl, rfl⟩ := Prod.mk.inj (Option.some.inj read)
      exact ⟨rfl, by simpa using other⟩
    | case5 c tail other ih =>
      obtain ⟨name, found, rfl⟩ := map_fst_eq_some.mp read
      obtain ⟨rfl, ends⟩ := ih found
      exact ⟨by simp [Dialect.doubled, other], ends⟩
  · rintro ⟨rfl, ends⟩
    exact readBody?_doubled name ends

theorem read?_eq_some_iff {t name : Text} :
    read? quote t = some (name, rest) ↔
      t = quote :: (Dialect.doubled quote name ++ quote :: rest) ∧ rest.head? ≠ some quote := by
  cases t with
  | nil => simp [read?]
  | cons c t =>
    by_cases same : c = quote
    · simp [read?, same, readBody?_eq_some_iff]
    · simp [read?, same]

/-- The reader of names between quotes of one kind. -/
def reader (quote : CodePoint) : Reader Text where
  read? := read? quote
  shorter found := by
    rw [(read?_eq_some_iff.mp found).1]
    simp only [List.length_cons, List.length_append]
    omega

variable {d : Dialect}

theorem read?_enclose (name : Text) (ends : rest.head? ≠ some d.quote) :
    read? d.quote (d.enclose name ++ rest) = some (name, rest) := by
  have whole : d.enclose name ++ rest =
      d.quote :: (Dialect.doubled d.quote name ++ d.quote :: rest) := by
    simp [Dialect.enclose]
  exact read?_eq_some_iff.mpr ⟨whole, ends⟩

theorem result_name {raw escaped : Text} (made : d.escape raw = .ok escaped) :
    ((Draft.name raw).render d).result = .ok (d.enclose escaped) := by
  rw [Draft.render_name]
  simp [Part.render, made]

theorem result_names {v : Value} {names escaped : List Text}
    (listed : v = .list (names.map .text) ∨ v = .tuple (names.map .text))
    (made : List.Forall₂ (fun name text => d.escape name = .ok text) names escaped) :
    ((Format.name v).render d).result = .ok (Text.join ", " (escaped.map d.enclose)) := by
  have drafted : Format.name v = .commaSeparated (names.map Draft.name) := by
    rcases listed with rfl | rfl
    · rw [Format.name, List.map_map]
      rfl
    · rw [Format.name, List.map_map]
      rfl
  rw [drafted, Draft.result_commaSeparated_eq_ok]
  refine ⟨escaped.map d.enclose, ?_, rfl⟩
  rw [List.forall₂_map_right_iff]
  exact made.imp fun _ _ => result_name

/-- The names of a list are read one after the other, up to a text with which no name goes on. -/
theorem separated?_enclosed {escaped : List Text} (apart : d.quote ≠ ',') (present : escaped ≠ [])
    (ends : rest.head? ≠ some d.quote) (last : ¬ Text.ofString ", " ++ [d.quote] <+: rest) :
    (reader d.quote).separated? (Text.join ", " (escaped.map d.enclose) ++ rest) =
      some (escaped, rest) := by
  apply Reader.separated?_join
  · rw [List.forall₂_map_right_iff, List.forall₂_same]
    intro name _ behind follows
    apply read?_enclose name
    rcases follows with rfl | ⟨next, rfl⟩
    · exact ends
    · intro comma
      exact apart (Option.some.inj comma).symm
  · exact present
  · intro next split
    cases next with
    | nil => rfl
    | cons c next =>
      have other : c ≠ d.quote := by
        rintro rfl
        exact last ⟨next, by simp [split]⟩
      exact if_neg other

/-- **Names cannot be broken out of.** Whatever the escape function makes of a name and whatever
quote encloses it, the written name is read as what was made, and the text behind it stays, unless
that begins with one more quote. The same holds of a list under any quote but a comma: no name ends
early, adds a name to the list or takes one away. -/
theorem read_name (d : Dialect) :
    (∀ name escaped, d.escape name = .ok escaped →
      ∃ written, ((Format.name (.text name)).render d).result = .ok written ∧
        ∀ rest : Text, ¬ [d.quote] <+: rest →
          read? d.quote (written ++ rest) = some (escaped, rest)) ∧
    (d.quote ≠ ',' → ∀ v names escaped, names ≠ [] →
      (v = .list (names.map .text) ∨ v = .tuple (names.map .text)) →
      List.Forall₂ (fun name text => d.escape name = .ok text) names escaped →
      ∃ written, ((Format.name v).render d).result = .ok written ∧
        ∀ rest : Text, ¬ [d.quote] <+: rest → ¬ Text.ofString ", " ++ [d.quote] <+: rest →
          (reader d.quote).separated? (written ++ rest) = some (escaped, rest)) := by
  have unquoted {rest : Text} (ends : ¬ [d.quote] <+: rest) : rest.head? ≠ some d.quote := by
    intro begins
    obtain ⟨tail, rfl⟩ := List.head?_eq_some_iff.mp begins
    exact ends ⟨tail, rfl⟩
  constructor
  · intro name escaped made
    refine ⟨d.enclose escaped, result_name made, ?_⟩
    intro rest ends
    exact read?_enclose escaped (unquoted ends)
  · intro apart v names escaped present listed made
    have filled : escaped ≠ [] := by
      rintro rfl
      exact present (List.forall₂_nil_right_iff.mp made)
    refine ⟨_, result_names listed made, ?_⟩
    intro rest ends last
    exact separated?_enclosed apart filled (unquoted ends) last

/-- An escape function that ends every name in the quote itself, in front of a comma. -/
theorem read_name_bang :
    let d : Dialect := ⟨fun t => .ok (t ++ Text.ofString "!"), CodePoint.ofChar '!'⟩
    let names : List Text := ["a", ""]
    let rest : Text := ", b"
    d.quote ≠ ',' ∧ ¬ [d.quote] <+: rest ∧ ¬ Text.ofString ", " ++ [d.quote] <+: rest ∧
      ((Format.name (.list (names.map .text))).render d).result = .ok "!a!!!, !!!!" ∧
      (reader d.quote).separated? (Text.ofString "!a!!!, !!!!" ++ rest) =
        some ([Text.ofString "a!", Text.ofString "!"], rest) := by
  intro d names rest
  have apart : d.quote ≠ ',' := by decide
  have ends : ¬ [d.quote] <+: rest := by decide
  have last : ¬ Text.ofString ", " ++ [d.quote] <+: rest := by decide
  have made : List.Forall₂ (fun name text => d.escape name = .ok text) names ["a!", "!"] :=
    .cons rfl (.cons rfl .nil)
  obtain ⟨written, wrote, reads⟩ :=
    (read_name d).2 apart (.list (names.map .text)) names _ (by decide) (.inl rfl) made
  obtain rfl : Text.ofString "!a!!!, !!!!" = written := Except.ok.inj wrote
  exact ⟨apart, ends, last, wrote, reads rest ends last⟩

end QuotedName

end SqlTemplate
