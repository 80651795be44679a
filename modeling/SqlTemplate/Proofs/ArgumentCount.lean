import SqlTemplate.Proofs.Binding

/-!
# How many arguments a template needs

A text is cut into placeholders in one way only (`Template.Cuts.eq_parseFrom`), at its question
marks. The substitution binds one argument to each of them, in order (`substitute_writing`), so no
shorter list compiles; a list of neutral values of this length does (`compile_neutral`).
-/

namespace SqlTemplate

namespace Token

/-- A placeholder begins with its only question mark. -/
theorem exists_text (token : Token) :
    ∃ marks, token.text = CodePoint.ofChar '?' :: marks ∧ CodePoint.ofChar '?' ∉ marks := by
  cases token <;> exact ⟨_, rfl, by decide⟩

theorem exists_mark {token : Token} (marked : token ≠ .any) :
    ∃ mark, ofMark? mark = some token ∧ token.text = [CodePoint.ofChar '?', mark] := by
  cases token with
  | any => exact absurd rfl marked
  | integer => exact ⟨CodePoint.ofChar 'd', by decide, rfl⟩
  | float => exact ⟨CodePoint.ofChar 'f', by decide, rfl⟩
  | list => exact ⟨CodePoint.ofChar 'a', by decide, rfl⟩
  | name => exact ⟨CodePoint.ofChar '#', by decide, rfl⟩

end Token

/-- The table whose formatters write what `write` says. -/
def FormatterTable.writing (write : Token → Value → Text) : FormatterTable :=
  fun token => some fun v => .sql (write token v)

/-- A value that every placeholder of its kind takes: null, or a list of nothing. -/
def Token.neutral : Token → Value
  | .integer | .float | .any => .null
  | .list | .name => .list []

theorem Token.neutral_accepted (token : Token) (d : Dialect) : token.neutral.isSkip = false ∧
    ∃ sql, ((FormatterTable.formatter token token.neutral).render d).result = .ok sql := by
  cases token with
  | integer | float | any =>
    exact ⟨rfl, _, congrArg Rendering.result (Draft.render_sql d Format.nullText)⟩
  | list | name => exact ⟨rfl, _, congrArg Rendering.result (Draft.render_empty d)⟩

namespace Template

/-! ## One way to cut -/

section
variable {c : CodePoint} {head text : Text} {slot : Slot} {slots : List Slot} {start : Nat}

/-- A cut goes on behind a code point in front of all placeholders. -/
theorem Cuts.plain (cuts : Cuts ⟨c :: head, slots⟩ start (c :: text)) :
    Cuts ⟨head, slots⟩ (start + 1) text := by
  refine ⟨(List.cons.inj cuts.whole).2, fun mem => cuts.head (List.mem_cons_of_mem c mem),
    cuts.following, cuts.bare, fun before slot after split => ?_⟩
  rw [cuts.offset before slot after split]
  simp [Template.text]
  omega

/-- A cut goes on behind the question mark of a placeholder. -/
theorem Cuts.placeholder (cuts : Cuts ⟨[], slot :: slots⟩ start (c :: text)) :
    c = '?' ∧ slot.offset = start ∧ ∃ head, Cuts ⟨head, slots⟩ (start + 1) text ∧
      slot.token.text ++ slot.following = CodePoint.ofChar '?' :: head := by
  obtain ⟨marks, written, single⟩ := slot.token.exists_text
  have covers : slot.token.text ++ slot.following =
      CodePoint.ofChar '?' :: (marks ++ slot.following) := by
    rw [written, List.cons_append]
  have whole := cuts.whole
  simp only [Template.text, List.nil_append, List.flatMap_cons, covers, List.cons_append] at whole
  obtain ⟨rfl, behind⟩ := List.cons.inj whole
  have place := cuts.offset [] slot slots rfl
  have bare : CodePoint.ofChar '?' ∉ marks ++ slot.following :=
    List.not_mem_append single (cuts.following slot List.mem_cons_self)
  refine ⟨rfl, by simpa [Template.text] using place, _, ⟨behind, bare, ?_, ?_, ?_⟩, covers⟩
  · exact fun other mem => cuts.following other (List.mem_cons_of_mem slot mem)
  · exact fun other mem => cuts.bare other (List.mem_cons_of_mem slot mem)
  · intro before other after split
    rw [cuts.offset (slot :: before) other after (congrArg _ split)]
    simp [Template.text, written]
    omega

/-- The placeholder comes back when its question mark is put in front. -/
theorem prepend_placeholder
    (bare : slot.token = .any → ∀ mark ∈ slot.following.head?, Token.ofMark? mark = none)
    (covers : slot.token.text ++ slot.following = CodePoint.ofChar '?' :: head) :
    prepend (CodePoint.ofChar '?', slot.offset) ⟨head, slots⟩ = ⟨[], slot :: slots⟩ := by
  obtain ⟨token, offset, following⟩ := slot
  by_cases any : token = .any
  · subst any
    obtain rfl : following = head := (List.cons.inj covers).2
    cases following with
    | nil => rfl
    | cons mark rest => simp [prepend, bare rfl mark rfl]
  · obtain ⟨mark, kind, written⟩ := Token.exists_mark any
    rw [written] at covers
    obtain rfl : mark :: following = head := (List.cons.inj covers).2
    simp [prepend, kind]

end

theorem Cuts.eq_empty {t : Template} {start : Nat} (cuts : t.Cuts start []) : t = empty := by
  obtain ⟨head, slots⟩ := t
  obtain ⟨rfl, nothing⟩ := List.append_eq_nil_iff.mp cuts.whole
  cases slots with
  | nil => rfl
  | cons slot slots =>
    obtain ⟨marks, written, -⟩ := slot.token.exists_text
    simp [written] at nothing

/-- **There is one way to cut a text into placeholders**, and it is the one that is parsed. -/
theorem Cuts.eq_parseFrom {t : Template} {start : Nat} {text : Text} (cuts : t.Cuts start text) :
    t = parseFrom start text := by
  induction text generalizing t start with
  | nil => exact cuts.eq_empty
  | cons c text ih =>
    change t = prepend (c, start) (parseFrom (start + 1) text)
    obtain ⟨head, slots⟩ := t
    cases head with
    | cons first head =>
      obtain ⟨rfl, -⟩ := List.cons.inj cuts.whole
      have plain : first ≠ '?' := fun question => cuts.head (question ▸ List.mem_cons_self)
      rw [← ih cuts.plain]
      simp [prepend, plain]
    | nil =>
      cases slots with
      | nil => exact absurd cuts.whole (List.cons_ne_nil c text).symm
      | cons slot slots =>
        obtain ⟨rfl, rfl, head, others, covers⟩ := cuts.placeholder
        rw [← ih others, prepend_placeholder (cuts.bare slot List.mem_cons_self) covers]

/-- Every question mark starts a placeholder. -/
theorem Cuts.count {t : Template} {start : Nat} {text : Text} (cuts : t.Cuts start text) :
    t.slots.length = text.count (CodePoint.ofChar '?') := by
  obtain ⟨head, slots⟩ := t
  have following := cuts.following
  change slots.length = _
  rw [← cuts.whole, Template.text, List.count_append, List.count_eq_zero.mpr cuts.head,
    Nat.zero_add]
  clear cuts
  induction slots with
  | nil => rfl
  | cons slot slots ih =>
    obtain ⟨marks, written, single⟩ := slot.token.exists_text
    have first := List.count_eq_zero.mpr (following slot List.mem_cons_self)
    rw [List.flatMap_cons, List.count_append, List.count_append, first, written,
      List.count_cons_self, List.count_eq_zero.mpr single,
      ← ih fun other mem => following other (List.mem_cons_of_mem slot mem), List.length_cons]
    omega

/-! ## Arguments and placeholders -/

/-- What a placeholder leaves for its argument: nothing for a skip signal. -/
def writtenFor (write : Token → Value → Text) (token : Token) (v : Value) : Text :=
  if v.isSkip then [] else write token v

section
variable {write : Token → Value → Text} {d : Dialect} {text : Text}

/-- The substitution takes an argument for every placeholder. -/
theorem enough_of_substitute {table : FormatterTable} {args : List Value} {sql : Text}
    (done : (substitute table d text args).result = .ok sql) :
    (tokens text).length ≤ args.length := by
  obtain ⟨written, -, -, writes⟩ := (substitute_eq_ok table d text args sql).mp done
  rw [tokens, List.length_map]
  refine Nat.le_of_not_lt fun few => ?_
  obtain ⟨v, r, given, -⟩ := writes args.length _ (List.getElem?_eq_getElem few)
  simp at given

/-- With enough arguments every placeholder has one of its own. -/
theorem exists_argument {args : List Value} {i : Nat} {slot : Slot}
    (enough : (tokens text).length ≤ args.length) (at_i : (parse text).slots[i]? = some slot) :
    ∃ v, args[i]? = some v ∧ (tokens text)[i]? = some slot.token := by
  rw [tokens, List.length_map] at enough
  obtain ⟨bound, -⟩ := List.getElem?_eq_some_iff.mp at_i
  exact ⟨_, List.getElem?_eq_getElem (Nat.lt_of_lt_of_le bound enough), by simp [tokens, at_i]⟩

theorem writes_writing_iff {slot : Slot} {v : Value} {r : Text} :
    Writes (.writing write) d text slot v r ↔
      (v.isSkip → Inside text slot.offset) ∧ r = writtenFor write slot.token v := by
  constructor
  · rintro (inside | ⟨filled, known, written⟩)
    · exact ⟨fun _ => inside, rfl⟩
    · obtain rfl := Option.some.inj known
      rw [Draft.render_sql] at written
      refine ⟨fun skip => absurd skip (by simp [filled]), ?_⟩
      simpa [writtenFor, filled] using (Except.ok.inj written).symm
  · rintro ⟨inside, rfl⟩
    cases skip : v.isSkip with
    | true =>
      obtain ⟨signal, rfl⟩ := Value.isSkip_eq_true_iff.mp skip
      exact .dropped (inside skip)
    | false =>
      refine .formatted skip rfl ?_
      simp [writtenFor, skip]

/-- Whatever the formatters write, the placeholders bind one argument each, in order. -/
theorem substitute_writing {args : List Value} {sql : Text} :
    (substitute (.writing write) d text args).result = .ok sql ↔
      (tokens text).length ≤ args.length ∧
      (∀ p ∈ (parse text).slots.zip args, p.2.isSkip → Inside text p.1.offset) ∧
      sql = (parse text).head ++
        weave (parse text).slots (List.zipWith (writtenFor write) (tokens text) args) := by
  have writes := substitute_eq_ok (.writing write) d text args sql
  simp only [writes_writing_iff] at writes
  constructor
  · intro done
    obtain ⟨written, length, rfl, each⟩ := writes.mp done
    refine ⟨enough_of_substitute done, ?_, ?_⟩
    · rintro ⟨slot, v⟩ mem
      obtain ⟨i, found⟩ := List.mem_iff_getElem?.mp mem
      obtain ⟨at_i, given⟩ := List.getElem?_zip_eq_some.mp found
      obtain ⟨v', r, given', -, inside, -⟩ := each i slot at_i
      obtain rfl := Option.some.inj (given.symm.trans given')
      exact inside
    · have same : written = List.zipWith (writtenFor write) (tokens text) args := by
        refine List.ext_getElem? fun i => ?_
        cases at_i : (parse text).slots[i]? with
        | none =>
          have beyond := List.getElem?_eq_none_iff.mp at_i
          have short : (List.zipWith (writtenFor write) (tokens text) args).length ≤ i := by
            rw [List.length_zipWith, tokens, List.length_map]
            exact Nat.le_trans (Nat.min_le_left _ _) beyond
          rw [List.getElem?_eq_none (length ▸ beyond), List.getElem?_eq_none short]
        | some slot =>
          obtain ⟨v, r, given, found, -, rfl⟩ := each i slot at_i
          simp [tokens, List.getElem?_zipWith, at_i, given, found]
      rw [same]
  · rintro ⟨enough, inside, rfl⟩
    have length : (List.zipWith (writtenFor write) (tokens text) args).length =
        (parse text).slots.length := by
      rw [List.length_zipWith, Nat.min_eq_left enough, tokens, List.length_map]
    refine writes.mpr ⟨_, length, rfl, fun i slot at_i => ?_⟩
    obtain ⟨v, given, kind⟩ := exists_argument enough at_i
    refine ⟨v, _, given, ?_, inside (slot, v) ?_, rfl⟩
    · simp [List.getElem?_zipWith, kind, given]
    · exact List.mem_of_getElem? (List.getElem?_zip_eq_some.mpr ⟨at_i, given⟩)

/-- With fewer arguments than placeholders nothing compiles. -/
theorem compile_of_few (table : FormatterTable) {args : List Value}
    (few : args.length < (tokens text).length) :
    ∃ failure, (compile table d text args).result = .error failure := by
  cases done : (substitute table d text args).result with
  | ok sql => exact absurd (enough_of_substitute done) (Nat.not_le_of_lt few)
  | error failure => exact ⟨failure, by simp only [compile, done, Except.map]⟩

/-- Values that the formatters of their placeholders write do compile. -/
theorem compile_of_accepted {args : List Value} (enough : (tokens text).length ≤ args.length)
    (accepted : ∀ p ∈ (tokens text).zip args, p.2.isSkip = false ∧
      ∃ sql, ((FormatterTable.formatter p.1 p.2).render d).result = .ok sql) :
    ∃ sql, (compile .standard d text args).result = .ok sql := by
  cases done : (substitute .standard d text args).result with
  | ok sql =>
    refine ⟨settleBlocks (Value.containsSkip args) sql, ?_⟩
    simp only [compile, done, Except.map]
  | error failure =>
    obtain ⟨i, slot, at_i, refuses, -⟩ :=
      (substitute_eq_error .standard d text args failure).mp done
    obtain ⟨v, given, kind⟩ := exists_argument enough at_i
    have pair : (slot.token, v) ∈ (tokens text).zip args :=
      List.mem_of_getElem? (List.getElem?_zip_eq_some.mpr ⟨kind, given⟩)
    obtain ⟨filled, sql, written⟩ := accepted _ pair
    rw [given] at refuses
    cases refuses with
    | misplaced => nomatch filled
    | unknown _ unknown => nomatch unknown
    | formatter _ known refused =>
      obtain rfl := Option.some.inj known
      rw [written] at refused
      nomatch refused

end

theorem compile_neutral (d : Dialect) (text : Text) :
    ∃ sql, (compile .standard d text ((tokens text).map Token.neutral)).result = .ok sql := by
  refine compile_of_accepted (Nat.le_of_eq (List.length_map _).symm) ?_
  rintro ⟨token, v⟩ mem
  obtain ⟨i, found⟩ := List.mem_iff_getElem?.mp mem
  obtain ⟨at_i, given⟩ := List.getElem?_zip_eq_some.mp found
  rw [List.getElem?_map, at_i, Option.map_some] at given
  obtain rfl : token.neutral = v := Option.some.inj given
  exact token.neutral_accepted d

/-- **A template needs one argument for each of its placeholders.** A text is cut into placeholders
in one way, at its question marks. Those are the placeholders that bind the arguments, whatever
their formatters write; fewer arguments never compile, and some arguments of this number do. -/
theorem arguments_needed (text : Text) :
    ∃ t : Template, t.Cuts 0 text ∧ (∀ t' : Template, t'.Cuts 0 text → t' = t) ∧
      tokens text = t.slots.map (·.token) ∧
      (tokens text).length = text.count (CodePoint.ofChar '?') ∧
      (∀ (write : Token → Value → Text) (d : Dialect) (args : List Value) (sql : Text),
        (substitute (.writing write) d text args).result = .ok sql ↔
          (tokens text).length ≤ args.length ∧
          (∀ p ∈ t.slots.zip args, p.2.isSkip → Inside text p.1.offset) ∧
          sql = t.head ++ weave t.slots (List.zipWith (writtenFor write) (tokens text) args)) ∧
      (∀ (table : FormatterTable) (d : Dialect) (args : List Value),
        args.length < (tokens text).length →
          ∃ failure, (compile table d text args).result = .error failure) ∧
      ∃ args : List Value, args.length = (tokens text).length ∧
        ∀ d : Dialect, ∃ sql, (compile .standard d text args).result = .ok sql := by
  have cuts : (parse text).Cuts 0 text := parseFrom_cuts text 0
  refine ⟨parse text, cuts, fun t' cuts' => cuts'.eq_parseFrom, rfl, ?_, ?_, ?_, ?_⟩
  · rw [tokens, List.length_map, cuts.count]
  · exact fun write d args sql => substitute_writing
  · exact fun table d args few => compile_of_few table few
  · exact ⟨_, List.length_map _, fun d => compile_neutral d text⟩

end Template

end SqlTemplate
