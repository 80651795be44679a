import SqlTemplate.Proofs.Binding
import SqlTemplate.Proofs.Outline

/-!
# One pass over the outline of the template

The compiler looks for blocks twice, in the template to place the skip signals and in the query to
settle the blocks. If no literal holds a brace, both times they are the same: `compile_eq_onePass`
compares it to a compiler that fills the outline of the template and settles that.
-/

namespace SqlTemplate.Template

section
variable (table : FormatterTable) (d : Dialect)

/-- Fills an outline of a text that begins at `offset`, one stretch after the other. A skip signal
is let pass in the blocks only. The second result are the arguments that are left. -/
def fillOutline (supplied : Nat) :
    Nat → Text → List Outline.Block → List Value → Except Failure (Outline × List Value)
  | offset, head, [], args => do
    let (head', left) ← fill table d (fun _ => false) supplied (readFrom offset head) args
    return (⟨head', []⟩, left)
  | offset, head, b :: blocks, args => do
    let (head', left) ← fill table d (fun _ => false) supplied (readFrom offset head) args
    let start := offset + head.length + 1
    let (inner, left) ← fill table d (fun _ => true) supplied (readFrom start b.inner) left
    let (rest, left) ←
      fillOutline supplied (start + b.inner.length + 1) b.following blocks left
    return (⟨head', ⟨inner, rest.head⟩ :: rest.blocks⟩, left)

/-- Compiles a template by its outline: everything outside the blocks is kept, and the blocks lose
their braces, or are left out if any argument is a skip signal. -/
def onePass (o : Outline) (args : List Value) : Except Failure Text := do
  let (filled, _) ← fillOutline table d args.length 0 o.head o.blocks args
  return filled.settled (Value.containsSkip args)

end

variable (table : FormatterTable) (d : Dialect) (supplied : Nat)

/-- Only the placeholders ask whether they lie inside. -/
theorem fill_congr {inside within : Nat → Bool} {pieces : List Piece}
    (same : ∀ token offset, .placeholder token offset ∈ pieces → inside offset = within offset)
    (args : List Value) :
    fill table d inside supplied pieces args = fill table d within supplied pieces args := by
  induction pieces generalizing args with
  | nil => rfl
  | cons piece pieces ih =>
    have others := ih fun token offset mem => same token offset (List.mem_cons_of_mem _ mem)
    cases piece with
    | plain c => simp only [fill, others]
    | placeholder token offset =>
      cases args with
      | nil => rfl
      | cons v args => simp only [fill, others, same token offset List.mem_cons_self]

/-- The pieces of a block behind a head. -/
theorem readFrom_block (offset : Nat) (head inner rest : Text) :
    readFrom offset (head ++ .leftBrace :: (inner ++ .rightBrace :: rest)) =
      readFrom offset head ++ .plain .leftBrace ::
        (readFrom (offset + head.length + 1) inner ++ .plain .rightBrace ::
          readFrom (offset + head.length + 1 + inner.length + 1) rest) := by
  have opening : Separate head (.leftBrace :: (inner ++ .rightBrace :: rest)) := by
    rintro - _ ⟨⟩
    decide
  have closing : Separate inner (.rightBrace :: rest) := by
    rintro - _ ⟨⟩
    decide
  rw [readFrom_append opening, readFrom_plain (by decide), readFrom_append closing,
    readFrom_plain (by decide)]

/-- In a flat stretch no placeholder lies in a block. -/
theorem fill_flat (before rest : Text) {h : Text} (flat : Flat h)
    (opens : before.braces.getLast? ≠ some .opening) (closes : rest.braces.head? ≠ some .closing)
    (args : List Value) :
    fill table d (enclosed (before ++ (h ++ rest))) supplied (readFrom before.length h) args =
      fill table d (fun _ => false) supplied (readFrom before.length h) args := by
  refine fill_congr table d supplied ?_ args
  intro token offset mem
  obtain ⟨low, high⟩ := placeholder_mem_readFrom mem
  obtain ⟨k, rfl⟩ := Nat.exists_eq_add_of_le low
  exact not_enclosed_of_flat flat opens closes (by omega)

/-- Between the braces of a pair every placeholder lies in a block. -/
theorem fill_inner (before rest : Text) {inner : Text} (none : inner.braces = [])
    (args : List Value) :
    fill table d (enclosed (before ++ .leftBrace :: (inner ++ .rightBrace :: rest))) supplied
        (readFrom (before.length + 1) inner) args =
      fill table d (fun _ => true) supplied (readFrom (before.length + 1) inner) args := by
  refine fill_congr table d supplied ?_ args
  intro token offset mem
  obtain ⟨low, high⟩ := placeholder_mem_readFrom mem
  obtain ⟨k, rfl⟩ := Nat.exists_eq_add_of_le low
  exact enclosed_of_inner none (by omega)

/-- **The scan is a pass over the outline.** -/
theorem fill_outline {before rest head : Text} {blocks : List Outline.Block}
    (cut : (Outline.mk head blocks).IsCut rest)
    (opens : before.braces.getLast? ≠ some .opening) (args : List Value) :
    fill table d (enclosed (before ++ rest)) supplied (readFrom before.length rest) args =
      (fillOutline table d supplied before.length head blocks args).map
        fun (filled, left) => (filled.text, left) := by
  induction blocks generalizing before rest head args with
  | nil =>
    obtain rfl : head = rest := by simpa [Outline.text] using cut.whole
    have ends : (Text.braces []).head? ≠ some .closing := by simp
    have flat := fill_flat table d supplied before [] cut.head opens ends args
    rw [List.append_nil] at flat
    rw [flat, fillOutline]
    cases fill table d (fun _ => false) supplied (readFrom before.length head) args <;>
      simp [Except.map, Outline.text, bind, Except.bind, pure, Except.pure]
  | cons b blocks ih =>
    have whole := cut.whole
    rw [Outline.text_cons] at whole
    have none := cut.inner b List.mem_cons_self
    obtain ⟨after, others⟩ : ∃ after : Text, after = (Outline.mk b.following blocks).text :=
      ⟨_, rfl⟩
    rw [← others] at whole
    -- The rest is scanned behind the closing brace, where no pair is open.
    obtain ⟨start, shape⟩ : ∃ start : Text,
        start = before ++ head ++ .leftBrace :: (b.inner ++ [.rightBrace]) := ⟨_, rfl⟩
    have length : start.length = before.length + head.length + 1 + b.inner.length + 1 := by
      simp [shape]
      omega
    have split : before ++ rest = start ++ after := by simp [← whole, shape]
    have closed : start.braces.getLast? ≠ some .opening := by simp [shape, none]
    have outer := fill_flat table d supplied before
      (.leftBrace :: (b.inner ++ .rightBrace :: after)) cut.head opens (by simp) args
    have inner := fill_inner table d supplied (before ++ head) after none
    have following := ih (others ▸ cut.tail) closed
    rw [List.append_assoc, whole, List.length_append] at inner
    rw [whole] at outer
    rw [← split, length] at following
    have pieces := readFrom_block before.length head b.inner after
    rw [whole] at pieces
    simp only at outer
    rw [pieces, fill_append, outer, fillOutline]
    cases fill table d (fun _ => false) supplied (readFrom before.length head) args with
    | error failure => rfl
    | ok result =>
      obtain ⟨head', left⟩ := result
      simp only [fill, fill_append, inner, following, bind, Except.bind]
      cases fill table d (fun _ => true) supplied
          (readFrom (before.length + head.length + 1) b.inner) left with
      | error failure => rfl
      | ok result =>
        obtain ⟨inner', left⟩ := result
        simp only
        cases fillOutline table d supplied
            (before.length + head.length + 1 + b.inner.length + 1) b.following blocks left with
        | error failure => rfl
        | ok result =>
          obtain ⟨⟨following', blocks'⟩, left⟩ := result
          simp [Except.map, pure, Except.pure, Outline.text, Outline.Block.text]

/-- No literal that a scan writes holds a brace. Whether a placeholder lies inside makes no
difference here, because a skip signal is never written. -/
def Braceless : List Piece → List Value → Prop
  | [], _ => True
  | .plain _ :: rest, args => Braceless rest args
  | .placeholder .. :: _, [] => True
  | .placeholder token _ :: rest, v :: args =>
    (∀ r, literal table d true token v = .ok r → r.braces = []) ∧ Braceless rest args

variable {table : FormatterTable} {d : Dialect} {supplied : Nat} {inside : Nat → Bool}

theorem literal_inside {inside : Bool} {token : Token} {v : Value} {r : Text}
    (written : literal table d inside token v = .ok r) : literal table d true token v = .ok r := by
  cases inside with
  | true => exact written
  | false =>
    cases skip : v.isSkip with
    | false => rwa [literal_of_not_skip skip] at written ⊢
    | true =>
      obtain ⟨signal, rfl⟩ := Value.isSkip_eq_true_iff.mp skip
      simp [literal] at written

/-- Filling leaves the braces of the text as they are. -/
theorem fill_braces {pieces : List Piece} {args left : List Value} {text : Text}
    (filled : fill table d inside supplied pieces args = .ok (text, left))
    (braceless : Braceless table d pieces args) :
    text.braces = Text.braces (pieces.flatMap Piece.text) := by
  induction pieces generalizing args text with
  | nil =>
    cases filled
    rfl
  | cons piece pieces ih =>
    rw [List.flatMap_cons, Text.braces_append]
    cases piece with
    | plain c =>
      obtain ⟨others, rest, rfl⟩ := fill_plain_cons_eq_ok.mp filled
      rw [← ih rest braceless]
      simp [Piece.text, Text.braces_cons]
    | placeholder token offset =>
      obtain ⟨v, args, first, others, rfl, written, rest, rfl⟩ :=
        fill_placeholder_cons_eq_ok.mp filled
      have unbraced : Text.braces token.text = [] := by cases token <;> rfl
      rw [Text.braces_append, braceless.1 first (literal_inside written), ih rest braceless.2,
        Piece.text, unbraced]

theorem Braceless.append {a b : List Piece} {args left : List Value} {text : Text}
    (filled : fill table d inside supplied a args = .ok (text, left)) :
    Braceless table d (a ++ b) args ↔ Braceless table d a args ∧ Braceless table d b left := by
  induction a generalizing args text with
  | nil =>
    cases filled
    simp [Braceless]
  | cons piece a ih =>
    cases piece with
    | plain c =>
      obtain ⟨others, rest, rfl⟩ := fill_plain_cons_eq_ok.mp filled
      exact ih rest
    | placeholder token offset =>
      obtain ⟨v, args, first, others, rfl, written, rest, rfl⟩ :=
        fill_placeholder_cons_eq_ok.mp filled
      simp only [List.cons_append, Braceless, ih rest, and_assoc]

/-- A filled stretch has the braces of the stretch. -/
theorem fill_readFrom_braces {offset : Nat} {text filledText : Text} {args left : List Value}
    (filled : fill table d inside supplied (readFrom offset text) args = .ok (filledText, left))
    (braceless : Braceless table d (readFrom offset text) args) :
    filledText.braces = text.braces := by
  rw [fill_braces filled braceless, text_readFrom]

/-- **A filled outline is an outline.** -/
theorem fillOutline_isCut {offset : Nat} {head rest : Text} {blocks : List Outline.Block}
    (cut : (Outline.mk head blocks).IsCut rest) {args left : List Value} {o : Outline}
    (filled : fillOutline table d supplied offset head blocks args = .ok (o, left))
    (braceless : Braceless table d (readFrom offset rest) args) : o.IsCut o.text := by
  induction blocks generalizing offset head rest args o with
  | nil =>
    obtain rfl : head = rest := by simpa [Outline.text] using cut.whole
    simp only [fillOutline, bind_eq_ok, Prod.exists] at filled
    obtain ⟨head', left, first, filled⟩ := filled
    cases filled
    have flat : Flat head' := (flat_congr (fill_readFrom_braces first braceless)).mpr cut.head
    exact ⟨rfl, flat, by simp, by simp⟩
  | cons b blocks ih =>
    have whole := cut.whole
    rw [Outline.text_cons] at whole
    rw [← whole, readFrom_block] at braceless
    simp only [fillOutline, bind_eq_ok, Prod.exists] at filled
    obtain ⟨head', left₁, first, inner, left₂, second, o', left₃, third, filled⟩ := filled
    cases filled
    obtain ⟨outer, behind⟩ := (Braceless.append first).mp braceless
    obtain ⟨within, behind⟩ := (Braceless.append second).mp behind
    have others := ih cut.tail third behind
    have flat : Flat head' := (flat_congr (fill_readFrom_braces first outer)).mpr cut.head
    have none : inner.braces = [] := by
      rw [fill_readFrom_braces second within, cut.inner b List.mem_cons_self]
    refine ⟨rfl, flat, ?_, ?_⟩
    · intro b' mem
      rcases List.mem_cons.mp mem with rfl | mem
      · exact none
      · exact others.inner b' mem
    · intro b' mem
      rcases List.mem_cons.mp mem with rfl | mem
      · exact others.head
      · exact others.following b' mem

theorem braceless_plain (text : Text) (pieces : List Piece) (args : List Value) :
    Braceless table d (text.map .plain ++ pieces) args ↔ Braceless table d pieces args := by
  induction text with
  | nil => rfl
  | cons c text ih => simpa [Braceless] using ih

/-- Literals that hold no brace, by the placeholders they are written for. -/
theorem braceless_slotPieces {text : Text} {slots : List Slot} {args : List Value}
    (plain : ∀ (i : Nat) slot v r, slots[i]? = some slot → args[i]? = some v →
      Writes table d text slot v r → r.braces = []) :
    Braceless table d (slotPieces slots) args := by
  induction slots generalizing args with
  | nil => trivial
  | cons slot slots ih =>
    cases args with
    | nil => trivial
    | cons v args =>
      simp only [slotPieces, List.flatMap_cons, List.cons_append, Braceless, braceless_plain]
      refine ⟨?_, ih fun i => plain (i + 1)⟩
      intro r written
      cases skip : v.isSkip with
      | true =>
        obtain ⟨signal, rfl⟩ := Value.isSkip_eq_true_iff.mp skip
        obtain rfl : [] = r := by simpa [literal] using written
        rfl
      | false =>
        rw [literal_of_not_skip skip] at written
        cases known : table slot.token with
        | none => simp [known] at written
        | some format =>
          exact plain 0 slot v r rfl rfl (.formatted skip known (by simpa [known] using written))

/-- **The two passes commute with the block structure.** If no literal holds a brace, compiling a
template is one pass over its outline, and every placeholder that takes a skip signal lies in a
block that is left out. -/
theorem compile_eq_onePass {table : FormatterTable} {d : Dialect} {text : Text} {args : List Value}
    (braceless : ∀ (i : Nat) slot v r, (parse text).slots[i]? = some slot → args[i]? = some v →
      Writes table d text slot v r → r.braces = []) :
    (∃ o : Outline, o.IsCut text) ∧
      ∀ o : Outline, o.IsCut text →
        (compile table d text args).result = onePass table d o args ∧
        ∀ sql, (substitute table d text args).result = .ok sql →
          ∀ (i : Nat) slot signal, (parse text).slots[i]? = some slot →
            args[i]? = some (.skip signal) →
            o.Interior slot.offset ∧ Value.containsSkip args = true := by
  refine ⟨Outline.exists_isCut text, fun o cut => ⟨?_, ?_⟩⟩
  · have empty : (Text.braces []).getLast? ≠ some .opening := by simp
    have scan := fill_outline table d args.length cut empty args
    have read : readFrom 0 text = (parse text).pieces := (pieces_parseFrom 0 text).symm
    have plain : Braceless table d (readFrom 0 text) args := by
      rw [read]
      exact (braceless_plain _ _ _).mpr (braceless_slotPieces braceless)
    rw [List.nil_append, List.length_nil, read] at scan
    simp only [compile, result_substitute, scan, onePass]
    cases filled : fillOutline table d args.length 0 o.head o.blocks args with
    | error failure => rfl
    | ok result =>
      obtain ⟨o', left⟩ := result
      have settled := (fillOutline_isCut cut filled plain).settleBlocks_eq (Value.containsSkip args)
      simp [Except.map, bind, Except.bind, pure, Except.pure, settled]
  · intro sql done i slot signal at_i bound
    obtain ⟨written, -, -, writes⟩ := (substitute_eq_ok table d text args sql).mp done
    obtain ⟨v, r, bound', -, writes⟩ := writes i slot at_i
    obtain rfl : .skip signal = v := by simpa [bound] using bound'
    cases writes with
    | formatted skip => simp [Value.isSkip] at skip
    | dropped inside =>
      refine ⟨cut.interior_iff_inside.mpr inside, ?_⟩
      exact List.any_eq_true.mpr ⟨.skip signal, List.mem_of_getElem? bound, rfl⟩

/-- A skip signal in the only block of a template. -/
theorem compile_eq_onePass_dropped :
    (compile .standard .default "a = ?\x7b AND b = ?\x7d" [.bool true, .skip ⟨0⟩]).result =
        onePass .standard .default ⟨"a = ?", [⟨" AND b = ?", []⟩]⟩ [.bool true, .skip ⟨0⟩] ∧
      onePass .standard .default ⟨"a = ?", [⟨" AND b = ?", []⟩]⟩ [.bool true, .skip ⟨0⟩] =
        .ok "a = 1" := by
  have slots : (parse "a = ?\x7b AND b = ?\x7d").slots =
      [⟨.any, 4, "\x7b AND b = "⟩, ⟨.any, 15, "\x7d"⟩] := by decide
  have cut : (Outline.mk "a = ?" [⟨" AND b = ?", []⟩]).IsCut "a = ?\x7b AND b = ?\x7d" :=
    ⟨by decide, by decide, by decide, by decide⟩
  have braceless : ∀ (i : Nat) slot v r,
      (parse "a = ?\x7b AND b = ?\x7d").slots[i]? = some slot →
      [Value.bool true, Value.skip ⟨0⟩][i]? = some v →
      Writes .standard .default "a = ?\x7b AND b = ?\x7d" slot v r → r.braces = [] := by
    intro i slot v r at_i bound writes
    rw [slots] at at_i
    cases writes with
    | dropped => rfl
    | formatted skip known written =>
      match i with
      | 0 =>
        cases at_i
        cases bound
        cases known
        cases written
        decide
      | 1 =>
        cases bound
        simp [Value.isSkip] at skip
      | i + 2 => simp at bound
  exact ⟨((compile_eq_onePass braceless).2 _ cut).1, rfl⟩

end SqlTemplate.Template
