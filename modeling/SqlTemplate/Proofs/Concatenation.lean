import SqlTemplate.Proofs.Formatters
import SqlTemplate.Proofs.OnePass

/-!
# Templates in a row

The placeholders, the arguments and the blocks of two templates in a row are those of the one and
then those of the other, if no mark comes to stand behind a question mark and no pair of braces is
made between the two. So the two are filled on their own (`substitute_concat`), and only what the
second one lacks is counted from the beginning of the first.
-/

namespace SqlTemplate

/-- A failure of a text that stands behind `length` code points which `bound` arguments are for. -/
def Failure.moved (length bound : Nat) : Failure → Failure
  | .query (.insufficientArguments token offset supplied) =>
    .query (.insufficientArguments token (offset + length) (supplied + bound))
  | failure => failure

namespace Template

/-- No block begins in the one text and ends in the other. -/
def Unbridged (a b : Text) : Prop :=
  ¬ (a.braces.getLast? = some .opening ∧ b.braces.head? = some .closing)

instance (a b : Text) : Decidable (Unbridged a b) :=
  inferInstanceAs (Decidable (¬ _))

section
variable {a b : Text} {offset : Nat}

/-- **The blocks of the first text** are not changed by what follows. -/
theorem enclosed_append_left (unbridged : Unbridged a b) (bound : offset ≤ a.length) :
    enclosed (a ++ b) offset = enclosed a offset := by
  rw [Bool.eq_iff_iff, enclosed_iff, enclosed_iff, List.take_append_of_le_length bound,
    List.drop_append_of_le_length bound, Text.braces_append]
  refine and_congr_right fun last => ?_
  cases behind : Text.braces (a.drop offset) with
  | cons brace others => rfl
  | nil =>
    -- The last brace before the offset is the last one of the text.
    have whole : a.braces = Text.braces (a.take offset) := by
      have split := Text.braces_append (a.take offset) (a.drop offset)
      rwa [List.take_append_drop, behind, List.append_nil] at split
    have apart : b.braces.head? ≠ some .closing := by
      intro first
      exact unbridged ⟨whole ▸ last, first⟩
    simp [apart]

/-- **The blocks of the second text** are not changed by what precedes. -/
theorem enclosed_append_right (unbridged : Unbridged a b) :
    enclosed (a ++ b) (a.length + offset) = enclosed b offset := by
  rw [Bool.eq_iff_iff, enclosed_iff, enclosed_iff, List.take_length_add_append,
    List.drop_length_add_append, Text.braces_append]
  refine and_congr_left fun first => ?_
  cases before : Text.braces (b.take offset) with
  | cons brace others => simp
  | nil =>
    -- The first brace from the offset on is the first one of the text.
    have whole : b.braces = Text.braces (b.drop offset) := by
      have split := Text.braces_append (b.take offset) (b.drop offset)
      rwa [List.take_append_drop, before, List.nil_append] at split
    have apart : a.braces.getLast? ≠ some .opening := by
      intro last
      exact unbridged ⟨last, whole ▸ first⟩
    simp [apart]

end

variable {table : FormatterTable} {d : Dialect}

/-- Only for lack of an argument a failure says where it happened. -/
theorem moved_of_literal (known : table.Known) {inside : Bool} {token : Token} {v : Value}
    {failure : Failure} (refused : literal table d inside token v = .error failure)
    (length bound : Nat) : failure.moved length bound = failure := by
  cases skip : v.isSkip with
  | true =>
    obtain ⟨signal, rfl⟩ := Value.isSkip_eq_true_iff.mp skip
    simp only [literal] at refused
    split at refused
    · cases refused
    · cases refused
      rfl
  | false =>
    rw [literal_of_not_skip skip] at refused
    cases found : table token with
    | none =>
      rw [found] at refused
      cases refused
      rfl
    | some format =>
      rw [found] at refused
      obtain ⟨memory, kind, rfl⟩ := known token format found
      rcases Draft.failure_of_render refused with drafted | ⟨cause, rfl⟩
      · rcases Format.formatter_failure drafted with ⟨token, reason, rfl⟩ | ⟨cause, -, rfl⟩ <;> rfl
      · rfl

/-- As many arguments as placeholders are all bound, and those behind them are left. How many there
are in all makes no difference. -/
theorem fill_exact {inside : Nat → Bool} {pieces : List Piece} (args more : List Value)
    (exact : (pieces.filterMap placeholder?).length = args.length) (supplied total : Nat) :
    fill table d inside total pieces (args ++ more) =
      (fill table d inside supplied pieces args).map fun (text, _) => (text, more) := by
  induction pieces generalizing args with
  | nil =>
    obtain rfl : args = [] := List.eq_nil_of_length_eq_zero exact.symm
    rfl
  | cons piece pieces ih =>
    cases piece with
    | plain c =>
      have others := ih args exact
      simp only [fill, others]
      cases fill table d inside supplied pieces args <;> rfl
    | placeholder token offset =>
      cases args with
      | nil => simp [placeholder?] at exact
      | cons v args =>
        have others := ih args (Nat.succ.inj exact)
        simp only [List.cons_append, fill, others]
        cases literal table d (inside offset) token v with
        | error failure => rfl
        | ok text => cases fill table d inside supplied pieces args <;> rfl

/-- **A text that stands behind another** is filled as on its own, only that its failures are moved
with it. -/
theorem fill_moved (known : table.Known) {inside within : Nat → Bool} {length : Nat}
    {pieces : List Piece} (same : ∀ token offset, .placeholder token offset ∈ pieces →
      within (offset + length) = inside offset) (supplied bound : Nat) (args : List Value) :
    fill table d within (supplied + bound) (pieces.map (.moved length)) args =
      (fill table d inside supplied pieces args).mapError (.moved length bound) := by
  induction pieces generalizing args with
  | nil => rfl
  | cons piece pieces ih =>
    have others := ih fun token offset mem => same token offset (List.mem_cons_of_mem _ mem)
    cases piece with
    | plain c =>
      simp only [List.map_cons, Piece.moved, fill, others]
      cases fill table d inside supplied pieces args <;> rfl
    | placeholder token offset =>
      cases args with
      | nil => rfl
      | cons v args =>
        have here := same token offset List.mem_cons_self
        simp only [List.map_cons, Piece.moved, fill, others, here]
        cases refused : literal table d (inside offset) token v with
        | error failure =>
          have unmoved := moved_of_literal known refused length bound
          exact congrArg Except.error unmoved.symm
        | ok text => cases fill table d inside supplied pieces args <;> rfl

/-- The substitution fills the pieces of the text. -/
theorem result_substitute_readFrom (table : FormatterTable) (d : Dialect) (text : Text)
    (args : List Value) :
    (substitute table d text args).result =
      (fill table d (enclosed text) args.length (readFrom 0 text) args).map Prod.fst := by
  rw [result_substitute, ← pieces_parseFrom]
  rfl

/-- **Templates in a row are filled one by one.** The first one takes the arguments it has
placeholders for, the second one takes the others. The first failure decides, and only a lack of
arguments is reported with the place in the whole and with all the arguments. -/
theorem substitute_concat {table : FormatterTable} {d : Dialect} {first second : Text}
    {args more : List Value} (known : table.Known)
    (exact : args.length = (parse first).slots.length) (separate : Separate first second)
    (unbridged : Unbridged first second) :
    (substitute table d (first ++ second) (args ++ more)).result =
      match (substitute table d first args).result, (substitute table d second more).result with
      | .error failure, _ => .error failure
      | .ok _, .error failure => .error (failure.moved first.length args.length)
      | .ok sql, .ok others => .ok (sql ++ others) := by
  have pieces : readFrom 0 (first ++ second) =
      readFrom 0 first ++ (readFrom 0 second).map (.moved first.length) := by
    rw [readFrom_append separate, readFrom_add]
  have count : ((readFrom 0 first).filterMap placeholder?).length = args.length := by
    have placeholders := congrArg List.length (placeholdersFrom_zero first)
    rw [List.length_map, ← exact] at placeholders
    exact placeholders
  have left (supplied : Nat) : fill table d (enclosed (first ++ second)) supplied
      (readFrom 0 first) (args ++ more) =
        (fill table d (enclosed first) args.length (readFrom 0 first) args).map
          fun (text, _) => (text, more) := by
    rw [← fill_exact args more count args.length supplied]
    apply fill_congr
    intro token offset mem
    have place := (placeholder_mem_readFrom mem).2
    exact enclosed_append_left unbridged (by omega)
  have right : fill table d (enclosed (first ++ second)) (more.length + args.length)
      ((readFrom 0 second).map (.moved first.length)) more =
        (fill table d (enclosed second) more.length (readFrom 0 second) more).mapError
          (.moved first.length args.length) := by
    apply fill_moved known
    intro token offset _
    rw [Nat.add_comm]
    exact enclosed_append_right unbridged
  simp only [result_substitute_readFrom]
  rw [pieces, fill_append, left, List.length_append, Nat.add_comm]
  cases fill table d (enclosed first) args.length (readFrom 0 first) args with
  | error failure => rfl
  | ok filled =>
    simp only [Except.map, right]
    cases fill table d (enclosed second) more.length (readFrom 0 second) more <;> rfl

/-- A placeholder without an argument is named with its offset in the whole. -/
theorem substitute_concat_short :
    let first := Text.ofString "a = ?"
    let second := Text.ofString " \x7bAND b = ?d\x7d"
    let args : List Value := [.text "x"]
    FormatterTable.standard.Known ∧ args.length = (parse first).slots.length ∧
      Separate first second ∧ Unbridged first second ∧
      (substitute .standard .default (first ++ second) (args ++ [])).result =
        .error (.query (.insufficientArguments .integer 15 1)) := by
  intro first second args
  have known := FormatterTable.known_standard
  have exact : args.length = (parse first).slots.length := rfl
  have separate : Separate first second := by
    rintro - _ ⟨⟩
    decide
  have unbridged : Unbridged first second := by decide
  exact ⟨known, exact, separate, unbridged, substitute_concat known exact separate unbridged⟩

end Template

end SqlTemplate
