import SqlTemplate.Proofs.Containment

/-!
# The literals of a query

In a template whose quotes all belong to literals, away from the placeholders (`Sealed`), no bound
value can open, close or merge a literal: the literals of the query are those of the template with
those of the values between them (`literals_substitute`).
-/

namespace SqlTemplate

open QuotedLiteral

/-- The literals of chunks in a row, found in one chunk after the other. -/
def placed : Nat → List Text → List QuotedLiteral
  | _, [] => []
  | offset, chunk :: rest =>
    (Template.literals chunk).map (moved offset) ++ placed (offset + chunk.length) rest

namespace Template

/-- The stretches between the placeholders, from `head` on, with the texts written for the
placeholders between them. -/
def chunks (head : Text) : List Slot → List Text → List Text
  | slot :: slots, r :: written => head :: r :: chunks slot.following slots written
  | _, _ => [head]

theorem flatten_chunks (head : Text) (slots : List Slot) (written : List Text) :
    (chunks head slots written).flatten = head ++ weave slots written := by
  induction slots generalizing head written with
  | nil => simp [chunks, weave]
  | cons slot slots ih =>
    cases written with
    | nil => simp [chunks, weave]
    | cons r written => simp [chunks, ih, weave]

/-- A template with its own placeholders written in place. -/
theorem flatten_chunks_tokens (t : Template) :
    (chunks t.head t.slots (t.slots.map (·.token.text))).flatten = t.text := by
  obtain ⟨head, slots⟩ := t
  induction slots generalizing head with
  | nil => simp [chunks, text]
  | cons slot slots ih =>
    have others := ih slot.following
    simp only [text, List.map_cons, chunks, List.flatten_cons, List.flatMap_cons] at others ⊢
    simp [others]

/-- No quote stands next to a placeholder, and no placeholder next to another. -/
def Guarded (head : Text) : List Slot → Prop
  | [] => True
  | slot :: slots =>
    (∀ c ∈ head.getLast?, ¬ c.IsQuote) ∧ (∀ c ∈ slot.following.head?, ¬ c.IsQuote) ∧
      (slots ≠ [] → slot.following ≠ []) ∧ Guarded slot.following slots

/-- Chunks that are lexed one by one are lexed in a row. -/
theorem lexes_chunks {head : Text} {slots : List Slot} {written : List Text}
    (guarded : Guarded head slots) (length : written.length = slots.length)
    (outer : Lexable head) (following : ∀ slot ∈ slots, Lexable slot.following)
    (inner : ∀ r ∈ written, Lexable r) (offset : Nat) :
    Lexes offset (chunks head slots written).flatten
      (placed offset (chunks head slots written)) := by
  induction slots generalizing head written offset with
  | nil => simpa [chunks, placed] using outer.lexes offset
  | cons slot slots ih =>
    cases written with
    | nil => simp at length
    | cons r written =>
      obtain ⟨last, first, apart, guarded⟩ := guarded
      have rest := ih guarded (by simpa using length) (following slot List.mem_cons_self)
        (fun other mem => following other (List.mem_cons_of_mem _ mem))
        (fun other mem => inner other (List.mem_cons_of_mem _ mem))
        (offset + head.length + r.length)
      refine (outer.lexes offset).append (((inner r List.mem_cons_self).lexes _).append rest ?_) ?_
      · intro quote kind _ begins
        rw [flatten_chunks] at begins
        cases text : slot.following with
        | cons c rest => exact first quote (by simpa [text] using begins) kind
        | nil =>
          cases slots with
          | nil => simp [text, weave] at begins
          | cons next slots => exact absurd text (apart (by simp))
      · intro quote kind meets
        exact absurd kind (last quote meets)

/-- Where no placeholder lies in a literal, every stretch around the placeholders is lexed by
itself. -/
theorem lexable_stretches {head : Text} {slots : List Slot} {offset : Nat}
    {found : List QuotedLiteral}
    (lexes : Lexes offset (chunks head slots (slots.map (·.token.text))).flatten found)
    (offsets : ∀ before slot after, slots = before ++ slot :: after →
      slot.offset = offset + (Template.mk head before).text.length)
    (outside : ∀ slot ∈ slots, ∀ l ∈ found,
      ¬ (l.offset ≤ slot.offset ∧ slot.offset < l.offset + l.text.length)) :
    Lexable head ∧ ∀ slot ∈ slots, Lexable slot.following := by
  induction slots generalizing head offset found with
  | nil => exact ⟨.of_lexes (by simpa [chunks] using lexes), nofun⟩
  | cons slot slots ih =>
    have place : slot.offset = offset + head.length := by
      simpa [text] using offsets [] slot slots rfl
    rw [List.map_cons, chunks, List.flatten_cons] at lexes
    obtain ⟨left, right, rfl, outer, rest⟩ := lexes.split fun l mem runsOn =>
      outside slot List.mem_cons_self l mem (place ▸ ⟨Nat.le_of_lt runsOn.1, runsOn.2⟩)
    have token : ∀ c ∈ slot.token.text, ¬ c.IsQuote := by cases slot.token <;> decide
    have inner := ih (rest.of_plain_append token) ?_ ?_
    · exact ⟨.of_lexes outer, List.forall_mem_cons.mpr inner⟩
    · intro before next after split
      have length := offsets (slot :: before) next after (by rw [split]; rfl)
      rw [length]
      simp [text]
      omega
    · intro next mem l found
      exact outside next (List.mem_cons_of_mem _ mem) l (List.mem_append_right _ found)

/-- A template whose literals are safe: every quote belongs to one, no placeholder lies in one or
next to a quote or to another placeholder, and none takes names. -/
structure Sealed (text : Text) : Prop where
  covered : Covered 0 text (literals text)
  outside : ∀ slot ∈ (parse text).slots, ∀ l ∈ literals text,
    ¬ (l.offset ≤ slot.offset ∧ slot.offset < l.offset + l.text.length)
  before : ∀ before slot after, (parse text).slots = before ++ slot :: after →
    ∀ c ∈ (Template.mk (parse text).head before).text.getLast?, ¬ c.IsQuote
  behind : ∀ slot ∈ (parse text).slots, ∀ c ∈ slot.following.head?, ¬ c.IsQuote
  apart : ∀ before slot next after, (parse text).slots = before ++ slot :: next :: after →
    slot.following ≠ []
  unnamed : ∀ slot ∈ (parse text).slots, slot.token ≠ .name

theorem Sealed.guarded {text : Text} (isSealed : Sealed text) :
    Guarded (parse text).head (parse text).slots := by
  have general (slots : List Slot) : ∀ (before : List Slot) (h : Text),
      (parse text).slots = before ++ slots →
      (∀ c ∈ h.getLast?, c ∈ (Template.mk (parse text).head before).text.getLast?) →
      Guarded h slots := by
    induction slots with
    | nil => exact fun _ _ _ _ => trivial
    | cons slot slots ih =>
      intro before h split last
      have mem : slot ∈ (parse text).slots := by simp [split]
      refine ⟨fun c ends => isSealed.before before slot slots split c (last c ends),
        isSealed.behind slot mem, ?_, ih (before ++ [slot]) slot.following (by simp [split]) ?_⟩
      · intro others
        cases slots with
        | nil => exact absurd rfl others
        | cons next after => exact isSealed.apart before slot next after split
      · intro c ends
        simp only [Option.mem_def] at ends ⊢
        simp [Template.text, List.getLast?_append, ends]
  exact general _ [] _ rfl (by simp [Template.text])

theorem Writes.contains {quote : CodePoint} {text : Text} {slot : Slot} {v : Value} {r : Text}
    (unnamed : slot.token ≠ .name)
    (unmapped : slot.token = .list → ∀ kind entries, v ≠ .mapping kind entries)
    (writes : Writes .standard ⟨Dialect.defaultEscape, quote⟩ text slot v r) :
    Contains r (v.shown slot.token) := by
  cases writes with
  | dropped =>
    have nothing (signal : SkipSignal) (token : Token) : (Value.skip signal).shown token = [] := by
      cases token <;> rfl
    rw [nothing]
    exact .of_quoteless (by decide)
  | formatted skip known written =>
    cases known
    exact Format.contains_formatter unnamed unmapped written

/-- **No bound value opens, closes or merges a literal.** Under the default escape the literals of
the query are those of the template, unchanged, and between them at each placeholder those of the
strings that it shows. -/
theorem literals_substitute {text : Text} {args : List Value} {quote : CodePoint} {sql : Text}
    (isSealed : Sealed text)
    (unmapped : ∀ (i : Nat) slot kind entries, (parse text).slots[i]? = some slot →
      slot.token = .list → args[i]? ≠ some (.mapping kind entries))
    (done : (substitute .standard ⟨Dialect.defaultEscape, quote⟩ text args).result = .ok sql) :
    ∃ written : List Text, written.length = (parse text).slots.length ∧
      sql = (chunks (parse text).head (parse text).slots written).flatten ∧
      literals sql = placed 0 (chunks (parse text).head (parse text).slots written) ∧
      literals text = placed 0 (chunks (parse text).head (parse text).slots
        ((parse text).slots.map (·.token.text))) ∧
      ∀ (i : Nat) slot, (parse text).slots[i]? = some slot →
        literals slot.token.text = [] ∧ ∃ v r, args[i]? = some v ∧ written[i]? = some r ∧
          Writes .standard ⟨Dialect.defaultEscape, quote⟩ text slot v r ∧
          (literals r).map (·.text) =
            (v.shown slot.token).map fun t => (Dialect.escapeText t).quoted := by
  obtain ⟨written, length, shape, writes⟩ := (substitute_eq_ok _ _ text args sql).mp done
  have cuts : (parse text).Cuts 0 text := parseFrom_cuts text 0
  have whole := flatten_chunks_tokens (parse text)
  rw [cuts.whole] at whole
  have lexed : Lexes 0 (chunks (parse text).head (parse text).slots
      ((parse text).slots.map (·.token.text))).flatten (literals text) := by
    rw [whole]
    exact lexes_of_covered isSealed.covered
  obtain ⟨outer, following⟩ := lexable_stretches lexed cuts.offset isSealed.outside
  have contains {i : Nat} {slot : Slot} {v : Value} {r : Text}
      (at_i : (parse text).slots[i]? = some slot) (bound : args[i]? = some v)
      (writes : Writes .standard ⟨Dialect.defaultEscape, quote⟩ text slot v r) :
      Contains r (v.shown slot.token) :=
    writes.contains (isSealed.unnamed slot (List.mem_of_getElem? at_i))
      fun kind_ kind entries same => unmapped i slot kind entries at_i kind_ (same ▸ bound)
  have tokens (slot : Slot) : Lexable slot.token.text ∧ literals slot.token.text = [] :=
    Lexable.of_no_quote (by cases slot.token <;> decide)
  have query : sql = (chunks (parse text).head (parse text).slots written).flatten := by
    rw [shape, flatten_chunks]
  refine ⟨written, length, query, ?_, ?_, ?_⟩
  · rw [query]
    refine (lexes_chunks isSealed.guarded length outer following ?_ 0).literalsFrom_eq
    intro r mem
    obtain ⟨i, found⟩ := List.mem_iff_getElem?.mp mem
    obtain ⟨bound, -⟩ := List.getElem?_eq_some_iff.mp found
    have at_i := List.getElem?_eq_getElem (length ▸ bound)
    obtain ⟨v, r', bound, found', writes⟩ := writes i _ at_i
    obtain rfl : r = r' := by simpa [found] using found'
    exact (contains at_i bound writes).lexable
  · have template := lexes_chunks isSealed.guarded (List.length_map _) outer following
      (by simpa using fun slot _ => (tokens slot).1) 0
    rw [← template.literalsFrom_eq, whole]
    rfl
  · intro i slot at_i
    obtain ⟨v, r, bound, found, writes⟩ := writes i slot at_i
    exact ⟨(tokens slot).2, v, r, bound, found, writes, (contains at_i bound writes).literals⟩

/-- A value that holds a quote behind a literal of the template. -/
theorem literals_substitute_quote :
    ∃ written : List Text,
      Text.ofString "'a' 'it\\'s'" = (chunks "'a' " [⟨.any, 4, []⟩] written).flatten ∧
        literals "'a' 'it\\'s'" = placed 0 (chunks "'a' " [⟨.any, 4, []⟩] written) := by
  have parsed : parse "'a' ?" = ⟨"'a' ", [⟨.any, 4, []⟩]⟩ := by decide
  have found : literals "'a' ?" = [⟨0, "'a'"⟩] := by decide
  have single {before after : List Slot} {slot : Slot}
      (split : (parse "'a' ?").slots = before ++ slot :: after) : before = [] ∧ after = [] := by
    rw [parsed] at split
    cases before <;> simp_all
  have isSealed : Sealed "'a' ?" := by
    refine ⟨?_, by rw [parsed, found]; decide, ?_, by rw [parsed]; decide, ?_,
      by rw [parsed]; decide⟩
    · intro i c at_i kind
      rw [found]
      have rest : ∀ c ∈ List.drop 3 (Text.ofString "'a' ?"), ¬ c.IsQuote := by decide
      have early : i < 3 := by
        refine Nat.lt_of_not_le fun late => ?_
        obtain ⟨k, rfl⟩ := Nat.exists_eq_add_of_le late
        exact rest c (List.mem_of_getElem? (List.getElem?_drop.trans at_i)) kind
      exact ⟨_, List.mem_singleton_self _, Nat.zero_le _, (Nat.zero_add i).symm ▸ early⟩
    · intro before slot after split
      obtain ⟨rfl, -⟩ := single split
      rw [parsed]
      decide
    · intro before slot next after split
      exact absurd (single split).2 (by simp)
  have unmapped : ∀ (i : Nat) slot kind entries, (parse "'a' ?").slots[i]? = some slot →
      slot.token = .list → [Value.text "it's"][i]? ≠ some (.mapping kind entries) := by
    intro i slot kind entries _ _
    cases i <;> simp
  have done : (substitute .standard ⟨Dialect.defaultEscape, Dialect.backquote⟩ "'a' ?"
      [.text "it's"]).result = .ok "'a' 'it\\'s'" := rfl
  obtain ⟨written, -, shape, query, -⟩ := literals_substitute isSealed unmapped done
  rw [parsed] at shape query
  exact ⟨written, shape, query⟩

end Template

end SqlTemplate
