import SqlTemplate.Proofs.Braces
import SqlTemplate.Proofs.Pieces
import SqlTemplate.Proofs.Rendering
import SqlTemplate.Template.Compile

/-!
# Arguments are bound from left to right

The substitution is a scan with a cursor (`fill`): each placeholder takes the next argument, and the
first one that has none, or that refuses the one it has, ends the scan. `substitute_first_failure`
says what the scan writes and which failure it ends with, by the position of the placeholder.
-/

namespace SqlTemplate.Template

section
variable (table : FormatterTable) (d : Dialect)

/-- What is written for a value at a placeholder. Only for a skip signal does it matter whether the
placeholder lies inside a block. -/
def literal (inside : Bool) (token : Token) : Value → Except Failure Text
  | .skip _ => if inside then .ok [] else .error (.query (.typeMismatch token .skipOutsideBlock))
  | v =>
    match table token with
    | some format => ((format v).render d).result
    | none => .error (.query (.unknownPlaceholder token))

/-- Fills the placeholders of some pieces with the next arguments. The second result are the
arguments that are left; `supplied` counts those of the whole call. -/
def fill (inside : Nat → Bool) (supplied : Nat) :
    List Piece → List Value → Except Failure (Text × List Value)
  | [], args => .ok ([], args)
  | .plain c :: rest, args =>
    (fill inside supplied rest args).map fun (text, left) => (c :: text, left)
  | .placeholder token offset :: _, [] =>
    .error (.query (.insufficientArguments token offset supplied))
  | .placeholder token offset :: rest, v :: args =>
    match literal table d (inside offset) token v with
    | .error failure => .error failure
    | .ok text =>
      (fill inside supplied rest args).map fun (others, left) => (text ++ others, left)

end

variable {table : FormatterTable} {d : Dialect} {inside : Nat → Bool} {supplied : Nat}

theorem fill_plain_cons_eq_ok {c : CodePoint} {rest : List Piece} {args left : List Value}
    {text : Text} :
    fill table d inside supplied (.plain c :: rest) args = .ok (text, left) ↔
      ∃ others, fill table d inside supplied rest args = .ok (others, left) ∧
        text = c :: others := by
  rw [fill]
  cases fill table d inside supplied rest args with
  | error failure => simp [Except.map]
  | ok result =>
    obtain ⟨others, left⟩ := result
    simp only [Except.map, Except.ok.injEq, Prod.mk.injEq]
    grind

theorem fill_placeholder_cons_eq_ok {token : Token} {offset : Nat} {rest : List Piece}
    {args left : List Value} {text : Text} :
    fill table d inside supplied (.placeholder token offset :: rest) args = .ok (text, left) ↔
      ∃ v args' first others, args = v :: args' ∧
        literal table d (inside offset) token v = .ok first ∧
        fill table d inside supplied rest args' = .ok (others, left) ∧ text = first ++ others := by
  cases args with
  | nil => simp [fill]
  | cons v args =>
    rw [fill]
    cases written : literal table d (inside offset) token v with
    | error failure => simp_all
    | ok first =>
      cases others : fill table d inside supplied rest args with
      | error failure => simp_all [Except.map]
      | ok result =>
        obtain ⟨others, left⟩ := result
        simp only [Except.map, Except.ok.injEq, Prod.mk.injEq]
        grind

/-- Pieces in a row share one cursor. -/
theorem fill_append (a b : List Piece) (args : List Value) :
    fill table d inside supplied (a ++ b) args =
      match fill table d inside supplied a args with
      | .error failure => .error failure
      | .ok (text, left) =>
        (fill table d inside supplied b left).map fun (others, left) => (text ++ others, left) := by
  induction a generalizing args with
  | nil => cases h : fill table d inside supplied b args <;> simp [fill, h, Except.map]
  | cons piece a ih =>
    cases piece with
    | plain c =>
      simp only [List.cons_append, fill, ih]
      cases fill table d inside supplied a args with
      | error failure => rfl
      | ok result =>
        obtain ⟨text, left⟩ := result
        cases h : fill table d inside supplied b left <;> simp [Except.map, h]
    | placeholder token offset =>
      cases args with
      | nil => rfl
      | cons v args =>
        simp only [List.cons_append, fill, ih]
        cases literal table d (inside offset) token v with
        | error failure => rfl
        | ok first =>
          cases fill table d inside supplied a args with
          | error failure => rfl
          | ok result =>
            obtain ⟨text, left⟩ := result
            cases h : fill table d inside supplied b left <;> simp [Except.map, h]

theorem fill_plain (text : Text) (rest : List Piece) (args : List Value) :
    fill table d inside supplied (text.map .plain ++ rest) args =
      (fill table d inside supplied rest args).map
        fun (others, left) => (text ++ others, left) := by
  induction text with
  | nil => cases h : fill table d inside supplied rest args <;> simp [Except.map, h]
  | cons c text ih =>
    simp only [List.map_cons, List.cons_append, fill, ih]
    cases fill table d inside supplied rest args <;> simp [Except.map]

theorem literal_of_not_skip {v : Value} (h : v.isSkip = false) (inside : Bool) (token : Token) :
    literal table d inside token v =
      match table token with
      | some format => ((format v).render d).result
      | none => .error (.query (.unknownPlaceholder token)) := by
  cases v with
  | skip signal => simp [Value.isSkip] at h
  | _ => rfl

theorem slotDraft_of_not_skip {v : Value} (h : v.isSkip = false) (spans : List Span) (slot : Slot) :
    slotDraft table spans slot v =
      match table slot.token with
      | some format => format v
      | none => .fail (.query (.unknownPlaceholder slot.token)) := by
  cases v with
  | skip signal => simp [Value.isSkip] at h
  | _ => rfl

theorem result_slotDraft (text : Text) (slot : Slot) (v : Value) :
    ((slotDraft table (blocks text) slot v).render d).result =
      literal table d (enclosed text slot.offset) slot.token v := by
  cases skip : v.isSkip with
  | false =>
    rw [slotDraft_of_not_skip skip, literal_of_not_skip skip]
    split <;> rfl
  | true =>
    obtain ⟨signal, rfl⟩ := Value.isSkip_eq_true_iff.mp skip
    simp only [slotDraft, literal, enclosed]
    split <;> simp [*]

/-- The failure for lack of an argument, if there is still a placeholder. -/
def lacking (supplied : Nat) : List Slot → Draft
  | [] => .empty
  | slot :: _ => .fail (.query (.insufficientArguments slot.token slot.offset supplied))

theorem shortage_eq (slots : List Slot) (supplied : Nat) :
    shortage slots supplied = lacking supplied (slots.drop supplied) := by
  unfold shortage
  cases slots.drop supplied <;> rfl

/-- The pieces of the placeholders of a template, each with the text behind it. -/
def slotPieces (slots : List Slot) : List Piece :=
  slots.flatMap fun slot => .placeholder slot.token slot.offset :: slot.following.map .plain

theorem fill_slot_cons (slot : Slot) (slots : List Slot) (v : Value) (args : List Value) :
    fill table d inside supplied (slotPieces (slot :: slots)) (v :: args) =
      match literal table d (inside slot.offset) slot.token v with
      | .error failure => .error failure
      | .ok text => (fill table d inside supplied (slotPieces slots) args).map fun (others, left) =>
          (text ++ slot.following ++ others, left) := by
  simp only [slotPieces, List.flatMap_cons, List.cons_append, fill, fill_plain]
  cases literal table d (inside slot.offset) slot.token v with
  | error failure => rfl
  | ok text =>
    cases h : fill table d inside supplied (slotPieces slots) args <;>
      simp_all [Except.map, slotPieces]

/-- The draft of the bound placeholders, up to the first failure. -/
def slotsDraft (table : FormatterTable) (spans : List Span) (supplied : Nat) (slots : List Slot)
    (args : List Value) : Draft :=
  Draft.concat ((slots.zip args).map fun (slot, v) =>
      slotDraft table spans slot v ++ Draft.sql slot.following) ++
    lacking supplied (slots.drop args.length)

theorem slotsDraft_cons (spans : List Span) (slot : Slot) (slots : List Slot) (v : Value)
    (args : List Value) :
    slotsDraft table spans supplied (slot :: slots) (v :: args) =
      slotDraft table spans slot v ++
        (Draft.sql slot.following ++ slotsDraft table spans supplied slots args) := by
  unfold slotsDraft
  rw [← Draft.append_assoc, ← Draft.append_assoc]
  rfl

theorem result_slotsDraft (text : Text) (slots : List Slot) (args : List Value) :
    ((slotsDraft table (blocks text) supplied slots args).render d).result =
      (fill table d (enclosed text) supplied (slotPieces slots) args).map Prod.fst := by
  induction slots generalizing args with
  | nil =>
    rw [slotsDraft, List.drop_nil]
    rfl
  | cons slot slots ih =>
    cases args with
    | nil => rfl
    | cons v args =>
      rw [fill_slot_cons, ← result_slotDraft, slotsDraft_cons, Draft.render_append,
        Rendering.andThen]
      cases bound : ((slotDraft table (blocks text) slot v).render d).result with
      | error failure => simpa [Except.map] using bound
      | ok text =>
        simp only [Draft.result_sql_append, ih]
        cases fill table d _ supplied (slotPieces slots) args <;> simp [Except.map]

/-- **The substitution is one scan.** -/
theorem result_substitute (table : FormatterTable) (d : Dialect) (text : Text) (args : List Value) :
    (substitute table d text args).result =
      (fill table d (enclosed text) args.length
        (parse text).pieces args).map Prod.fst := by
  have whole : draft table text args = Draft.sql (parse text).head ++
      slotsDraft table (blocks text) args.length (parse text).slots args := by
    simp only [draft, shortage_eq, slotsDraft]
  rw [substitute, whole, Draft.result_sql_append, result_slotsDraft, pieces, fill_plain, slotPieces]
  cases fill table d _ args.length _ args <;> rfl

/-- What a placeholder makes of its argument, if there is one. -/
def outcome (table : FormatterTable) (d : Dialect) (inside : Nat → Bool) (supplied : Nat)
    (slot : Slot) : Option Value → Except Failure Text
  | none => .error (.query (.insufficientArguments slot.token slot.offset supplied))
  | some v => literal table d (inside slot.offset) slot.token v

theorem fill_slots_cons (slot : Slot) (slots : List Slot) (args : List Value) :
    (fill table d inside supplied (slotPieces (slot :: slots)) args).map Prod.fst =
      match outcome table d inside supplied slot args[0]? with
      | .error failure => .error failure
      | .ok text => ((fill table d inside supplied (slotPieces slots) args.tail).map Prod.fst).map
          (text ++ slot.following ++ ·) := by
  cases args with
  | nil => rfl
  | cons v args =>
    rw [fill_slot_cons]
    simp only [outcome, List.getElem?_cons_zero, List.tail_cons]
    cases literal table d (inside slot.offset) slot.token v with
    | error failure => rfl
    | ok text => cases fill table d inside supplied (slotPieces slots) args <;> rfl

/-- The placeholders replaced by the texts written for them. -/
def weave (slots : List Slot) (written : List Text) : Text :=
  (List.zipWith (fun slot text => text ++ slot.following) slots written).flatten

theorem fill_slots_eq_ok (slots : List Slot) (args : List Value) (sql : Text) :
    (fill table d inside supplied (slotPieces slots) args).map Prod.fst = .ok sql ↔
      ∃ written, written.length = slots.length ∧ sql = weave slots written ∧
        ∀ (i : Nat) slot, slots[i]? = some slot →
          ∃ text, written[i]? = some text ∧
            outcome table d inside supplied slot args[i]? = .ok text := by
  induction slots generalizing args sql with
  | nil => simp [slotPieces, fill, Except.map, weave, eq_comm]
  | cons slot slots ih =>
    rw [fill_slots_cons]
    constructor
    · intro filled
      cases first : outcome table d inside supplied slot args[0]? with
      | error failure => simp [first] at filled
      | ok text =>
        rw [first] at filled
        cases others : (fill table d inside supplied (slotPieces slots) args.tail).map Prod.fst with
        | error failure =>
          rw [others] at filled
          simp [Except.map] at filled
        | ok rest =>
          rw [others] at filled
          obtain ⟨written, length, rfl, writes⟩ := (ih args.tail rest).mp others
          refine ⟨text :: written, by simp [length], ?_, ?_⟩
          · simpa [Except.map, weave, eq_comm] using filled
          · intro i other at_i
            cases i with
            | zero =>
              obtain rfl := Option.some.inj at_i
              exact ⟨text, rfl, first⟩
            | succ i =>
              obtain ⟨text, found, written⟩ := writes i other (by simpa using at_i)
              exact ⟨text, by simpa using found, by simpa using written⟩
    · rintro ⟨written, length, rfl, writes⟩
      obtain ⟨text, found, first⟩ := writes 0 slot rfl
      cases written with
      | nil => simp at found
      | cons head written =>
        obtain rfl : head = text := by simpa using found
        have others := (ih args.tail (weave slots written)).mpr
          ⟨written, by simpa using length, rfl, fun i other at_i => by
            simpa using writes (i + 1) other (by simpa using at_i)⟩
        rw [first, others]
        simp [Except.map, weave]

theorem fill_slots_eq_error (slots : List Slot) (args : List Value) (failure : Failure) :
    (fill table d inside supplied (slotPieces slots) args).map Prod.fst = .error failure ↔
      ∃ (i : Nat) (slot : Slot), slots[i]? = some slot ∧
        outcome table d inside supplied slot args[i]? = .error failure ∧
        ∀ j < i, ∀ other, slots[j]? = some other →
          ∃ text, outcome table d inside supplied other args[j]? = .ok text := by
  induction slots generalizing args with
  | nil => simp [slotPieces, fill, Except.map]
  | cons slot slots ih =>
    rw [fill_slots_cons]
    cases first : outcome table d inside supplied slot args[0]? with
    | error cause =>
      constructor
      · rintro ⟨⟩
        exact ⟨0, slot, rfl, first, nofun⟩
      · rintro ⟨i, other, at_i, refused, earlier⟩
        cases i with
        | zero =>
          obtain rfl := Option.some.inj at_i
          rw [first] at refused
          exact refused
        | succ i =>
          obtain ⟨text, written⟩ := earlier 0 i.succ_pos slot rfl
          rw [first] at written
          simp at written
    | ok text =>
      simp only [map_eq_error, ih]
      constructor
      · rintro ⟨i, other, at_i, refused, earlier⟩
        refine ⟨i + 1, other, by simpa using at_i, by simpa using refused, ?_⟩
        intro j bound
        cases j with
        | zero =>
          rintro _ ⟨⟩
          exact ⟨text, first⟩
        | succ j => simpa using earlier j (Nat.lt_of_succ_lt_succ bound)
      · rintro ⟨i, other, at_i, refused, earlier⟩
        cases i with
        | zero =>
          obtain rfl := Option.some.inj at_i
          rw [first] at refused
          simp at refused
        | succ i =>
          refine ⟨i, other, by simpa using at_i, by simpa using refused, ?_⟩
          intro j bound
          simpa using earlier (j + 1) (Nat.succ_lt_succ bound)

/-- What a placeholder of `text` writes for the value bound to it. -/
inductive Writes (table : FormatterTable) (d : Dialect) (text : Text) (slot : Slot) :
    Value → Text → Prop
  | dropped {signal : SkipSignal} : Inside text slot.offset →
    Writes table d text slot (.skip signal) []
  | formatted {v : Value} {format : Formatter} {sql : Text} : v.isSkip = false →
    table slot.token = some format → ((format v).render d).result = .ok sql →
    Writes table d text slot v sql

/-- Why a placeholder of `text` refuses its argument, or lacks one. -/
inductive Refuses (table : FormatterTable) (d : Dialect) (text : Text) (supplied : Nat)
    (slot : Slot) : Option Value → Failure → Prop
  | missing : Refuses table d text supplied slot none
      (.query (.insufficientArguments slot.token slot.offset supplied))
  | misplaced {signal : SkipSignal} : ¬ Inside text slot.offset →
    Refuses table d text supplied slot (some (.skip signal))
      (.query (.typeMismatch slot.token .skipOutsideBlock))
  | unknown {v : Value} : v.isSkip = false → table slot.token = none →
    Refuses table d text supplied slot (some v) (.query (.unknownPlaceholder slot.token))
  | formatter {v : Value} {format : Formatter} {failure : Failure} : v.isSkip = false →
    table slot.token = some format → ((format v).render d).result = .error failure →
    Refuses table d text supplied slot (some v) failure

section
variable {text : Text} {slot : Slot}

theorem outcome_eq_ok (within : inside slot.offset = true ↔ Inside text slot.offset)
    {arg : Option Value} {sql : Text} :
    outcome table d inside supplied slot arg = .ok sql ↔
      ∃ v, arg = some v ∧ Writes table d text slot v sql := by
  constructor
  · intro written
    cases arg with
    | none => simp [outcome] at written
    | some v =>
      refine ⟨v, rfl, ?_⟩
      cases skip : v.isSkip with
      | true =>
        obtain ⟨signal, rfl⟩ := Value.isSkip_eq_true_iff.mp skip
        simp only [outcome, literal] at written
        split at written
        · next enclosed =>
          obtain rfl := Except.ok.inj written
          exact .dropped (within.mp enclosed)
        · simp at written
      | false =>
        simp only [outcome, literal_of_not_skip skip] at written
        cases known : table slot.token with
        | none => simp [known] at written
        | some format => exact .formatted skip known (by simpa [known] using written)
  · rintro ⟨v, rfl, dropped | formatted⟩
    · simp [outcome, literal, within.mpr ‹_›]
    · simp [outcome, literal_of_not_skip, *]

theorem outcome_eq_error (within : inside slot.offset = true ↔ Inside text slot.offset)
    {arg : Option Value} {failure : Failure} :
    outcome table d inside supplied slot arg = .error failure ↔
      Refuses table d text supplied slot arg failure := by
  constructor
  · intro refused
    cases arg with
    | none =>
      obtain rfl := Except.error.inj refused
      exact .missing
    | some v =>
      cases skip : v.isSkip with
      | true =>
        obtain ⟨signal, rfl⟩ := Value.isSkip_eq_true_iff.mp skip
        simp only [outcome, literal] at refused
        split at refused
        · simp at refused
        · next outside =>
          obtain rfl := Except.error.inj refused
          exact .misplaced (mt within.mpr outside)
      | false =>
        simp only [outcome, literal_of_not_skip skip] at refused
        cases known : table slot.token with
        | none =>
          simp only [known, Except.error.injEq] at refused
          obtain rfl := refused
          exact .unknown skip known
        | some format => exact .formatter skip known (by simpa [known] using refused)
  · rintro (_ | outside | _ | _)
    · rfl
    · simp [outcome, literal, mt within.mp outside]
    · simp [outcome, literal_of_not_skip, *]
    · simp [outcome, literal_of_not_skip, *]

end

/-- A placeholder stands at a question mark, so that only pairs around it count. -/
theorem enclosed_iff_inside_slot {text : Text} {i : Nat} {slot : Slot}
    (at_i : (parse text).slots[i]? = some slot) :
    enclosed text slot.offset = true ↔ Inside text slot.offset := by
  have cuts : (parse text).Cuts 0 text := parseFrom_cuts text 0
  refine enclosed_iff_inside ?_
  rw [cuts.question (List.mem_of_getElem? at_i)]
  decide

section
variable (table : FormatterTable) (d : Dialect) (text : Text) (args : List Value)

theorem result_substitute_slots :
    (substitute table d text args).result =
      ((fill table d (enclosed text) args.length
        (slotPieces (parse text).slots) args).map Prod.fst).map ((parse text).head ++ ·) := by
  rw [result_substitute, pieces, fill_plain, slotPieces]
  cases fill table d _ args.length _ args <;> rfl

/-- The substitution gives a query exactly if every placeholder writes its argument. -/
theorem substitute_eq_ok (sql : Text) :
    (substitute table d text args).result = .ok sql ↔
      ∃ written, written.length = (parse text).slots.length ∧
        sql = (parse text).head ++ weave (parse text).slots written ∧
        ∀ (i : Nat) slot, (parse text).slots[i]? = some slot →
          ∃ v r, args[i]? = some v ∧ written[i]? = some r ∧ Writes table d text slot v r := by
  have whole : (substitute table d text args).result = .ok sql ↔
      ∃ others, (fill table d (enclosed text) args.length
        (slotPieces (parse text).slots) args).map Prod.fst = .ok others ∧
          sql = (parse text).head ++ others := by
    rw [result_substitute_slots]
    cases fill table d _ args.length _ args <;> simp [Except.map, eq_comm]
  rw [whole]
  simp only [fill_slots_eq_ok]
  constructor
  · rintro ⟨_, ⟨written, length, rfl, writes⟩, rfl⟩
    refine ⟨written, length, rfl, fun i slot at_i => ?_⟩
    obtain ⟨r, found, made⟩ := writes i slot at_i
    obtain ⟨v, bound, writes⟩ := (outcome_eq_ok (enclosed_iff_inside_slot at_i)).mp made
    exact ⟨v, r, bound, found, writes⟩
  · rintro ⟨written, length, rfl, writes⟩
    refine ⟨_, ⟨written, length, rfl, fun i slot at_i => ?_⟩, rfl⟩
    obtain ⟨v, r, bound, found, writes⟩ := writes i slot at_i
    exact ⟨r, found, (outcome_eq_ok (enclosed_iff_inside_slot at_i)).mpr ⟨v, bound, writes⟩⟩

/-- The substitution fails for the first placeholder that refuses its argument or lacks one. -/
theorem substitute_eq_error (failure : Failure) :
    (substitute table d text args).result = .error failure ↔
      ∃ (i : Nat) (slot : Slot), (parse text).slots[i]? = some slot ∧
        Refuses table d text args.length slot args[i]? failure ∧
        ∀ j < i, ∀ other, (parse text).slots[j]? = some other →
          ∃ v r, args[j]? = some v ∧ Writes table d text other v r := by
  rw [result_substitute_slots, map_eq_error, fill_slots_eq_error]
  constructor
  · rintro ⟨i, slot, at_i, refused, earlier⟩
    refine ⟨i, slot, at_i, (outcome_eq_error (enclosed_iff_inside_slot at_i)).mp refused, ?_⟩
    intro j bound other at_j
    obtain ⟨r, made⟩ := earlier j bound other at_j
    obtain ⟨v, bound, writes⟩ := (outcome_eq_ok (enclosed_iff_inside_slot at_j)).mp made
    exact ⟨v, r, bound, writes⟩
  · rintro ⟨i, slot, at_i, refused, earlier⟩
    refine ⟨i, slot, at_i, (outcome_eq_error (enclosed_iff_inside_slot at_i)).mpr refused, ?_⟩
    intro j bound other at_j
    obtain ⟨v, r, bound, writes⟩ := earlier j bound other at_j
    exact ⟨r, (outcome_eq_ok (enclosed_iff_inside_slot at_j)).mpr ⟨v, bound, writes⟩⟩

/-- Arguments that no placeholder binds change nothing. -/
theorem substitute_append (enough : (parse text).slots.length ≤ args.length) (more : List Value) :
    substitute table d text (args ++ more) = substitute table d text args := by
  have bound : (parse text).slots.zip (args ++ more) = (parse text).slots.zip args := by
    rw [List.zip_eq_zip_take_min, @List.zip_eq_zip_take_min Slot Value _ args]
    simp [Nat.min_eq_left enough, Nat.min_eq_left (Nat.le_add_right_of_le enough),
      List.take_append_of_le_length enough]
  simp only [substitute, draft, bound, shortage_eq, List.length_append]
  rw [List.drop_eq_nil_of_le enough, List.drop_eq_nil_of_le (by omega)]
  rfl

end

/-- A code point between the placeholders comes from a literal or from the template. -/
theorem mem_weave {slots : List Slot} {written : List Text} {c : CodePoint}
    (mem : c ∈ weave slots written) :
    (∃ r ∈ written, c ∈ r) ∨ ∃ slot ∈ slots, c ∈ slot.following := by
  obtain ⟨stretch, among, within⟩ := List.mem_flatten.mp mem
  obtain ⟨i, bound, rfl⟩ := List.mem_iff_getElem.mp among
  rw [List.getElem_zipWith, List.mem_append] at within
  rcases within with literal | following
  · exact .inl ⟨_, List.getElem_mem _, literal⟩
  · exact .inr ⟨_, List.getElem_mem _, following⟩

/-- Every code point of the query stands in the template, outside of the placeholders, or in the
literal of an argument. -/
theorem mem_substitute {table : FormatterTable} {d : Dialect} {text : Text} {args : List Value}
    {sql : Text} (done : (substitute table d text args).result = .ok sql) {c : CodePoint}
    (mem : c ∈ sql) :
    c ∈ (parse text).head ∨ (∃ slot ∈ (parse text).slots, c ∈ slot.following) ∨
      ∃ (i : Nat) (slot : Slot) (v : Value) (r : Text), (parse text).slots[i]? = some slot ∧
        args[i]? = some v ∧ Writes table d text slot v r ∧ c ∈ r := by
  obtain ⟨written, length, rfl, writes⟩ := (substitute_eq_ok table d text args sql).mp done
  rcases List.mem_append.mp mem with head | woven
  · exact .inl head
  rcases mem_weave woven with ⟨r, among, within⟩ | following
  · obtain ⟨i, found⟩ := List.mem_iff_getElem?.mp among
    obtain ⟨bound, -⟩ := List.getElem?_eq_some_iff.mp found
    have at_i := List.getElem?_eq_getElem (length ▸ bound)
    obtain ⟨v, r', bound, found', writes⟩ := writes i _ at_i
    obtain rfl : r = r' := by simpa [found] using found'
    exact .inr (.inr ⟨i, _, v, r, at_i, bound, writes, within⟩)
  · exact .inr (.inl following)

/-- **Arguments are bound in order, and the first failure decides.** A template is cut at its
question marks; every placeholder writes its own argument in place, or the first one that cannot
ends the scan. Arguments behind the last placeholder change nothing. -/
theorem substitute_first_failure (table : FormatterTable) (d : Dialect) (text : Text)
    (args : List Value) :
    (parse text).Cuts 0 text ∧
      (∀ sql, (substitute table d text args).result = .ok sql ↔
        ∃ written, written.length = (parse text).slots.length ∧
          sql = (parse text).head ++ weave (parse text).slots written ∧
          ∀ (i : Nat) slot, (parse text).slots[i]? = some slot →
            ∃ v r, args[i]? = some v ∧ written[i]? = some r ∧ Writes table d text slot v r) ∧
      (∀ failure, (substitute table d text args).result = .error failure ↔
        ∃ (i : Nat) (slot : Slot), (parse text).slots[i]? = some slot ∧
          Refuses table d text args.length slot args[i]? failure ∧
          ∀ j < i, ∀ other, (parse text).slots[j]? = some other →
            ∃ v r, args[j]? = some v ∧ Writes table d text other v r) ∧
      ((parse text).slots.length ≤ args.length → ∀ more,
        substitute table d text (args ++ more) = substitute table d text args) :=
  ⟨parseFrom_cuts text 0, substitute_eq_ok table d text args, substitute_eq_error table d text args,
    substitute_append table d text args⟩

end SqlTemplate.Template
