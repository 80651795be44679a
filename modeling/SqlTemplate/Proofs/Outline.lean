import SqlTemplate.Proofs.Braces

/-!
# Outlines

An outline cuts a text at its innermost pairs of braces: text in which no pair stands, then blocks,
each with such text behind it. Every text has one (`exists_isCut`). Its blocks are the innermost
pairs (`IsCut.innermostPair_iff`), and the text is settled block by block (`IsCut.settleBlocks_eq`).
-/

namespace SqlTemplate

/-- No opening brace stands before a closing one. -/
def Flat (t : Text) : Prop :=
  ¬ [Brace.opening, Brace.closing].Sublist t.braces

instance (t : Text) : Decidable (Flat t) :=
  inferInstanceAs (Decidable (¬ [Brace.opening, Brace.closing].Sublist t.braces))

theorem Flat.of_braces_sublist {a b : Text} (flat : Flat b) (sub : a.braces.Sublist b.braces) :
    Flat a :=
  fun pair => flat (pair.trans sub)

theorem flat_congr {a b : Text} (same : a.braces = b.braces) : Flat a ↔ Flat b := by
  rw [Flat, Flat, same]

theorem flat_of_braces_eq_nil {t : Text} (none : t.braces = []) : Flat t := by
  simp [Flat, none]

theorem flat_cons_of_not_opening {c : CodePoint} (other : c.brace? ≠ some .opening) (t : Text) :
    Flat (c :: t) ↔ Flat t := by
  rw [Flat, Flat, Text.braces_cons]
  cases kind : c.brace? with
  | none => rfl
  | some brace =>
    cases brace with
    | opening => exact absurd kind other
    | closing => simp [List.sublist_cons_iff]

theorem flat_cons_opening {c : CodePoint} (opening : c.brace? = some .opening) (t : Text) :
    Flat (c :: t) ↔ Brace.closing ∉ t.braces := by
  simp only [Flat, Text.braces_cons, opening, Option.toList_some, List.singleton_append,
    List.cons_sublist_cons, List.singleton_sublist]

namespace Fragment

/-- The items as the folded cut keeps them. -/
def cutOf (t : Text) : Cut CodePoint :=
  t.foldr (Cut.prepend CodePoint.brace?) ⟨none, []⟩

theorem cutOf_cons (c : CodePoint) (t : Text) :
    cutOf (c :: t) = (cutOf t).prepend CodePoint.brace? c := rfl

/-- A closing brace is pending exactly if it is the first brace. -/
theorem pending_cutOf (t : Text) :
    (cutOf t).pending = none ↔ t.braces.head? ≠ some .closing := by
  induction t with
  | nil => simp [cutOf]
  | cons c t ih =>
    rw [cutOf_cons, Text.braces_cons]
    rcases pending : (cutOf t).pending with _ | ⟨inner, closing⟩ <;> cases kind : c.brace? with
      | none => simp [Cut.prepend, kind, pending, ← ih]
      | some brace => cases brace <;> simp [Cut.prepend, kind, pending]

/-- Only an opening brace before a pending closing one makes a block. -/
theorem settled_prepend {cut : Cut CodePoint} {c : CodePoint}
    (apart : c.brace? = some .opening → cut.pending = none) :
    (cut.prepend CodePoint.brace? c).settled = .outside c :: cut.settled := by
  obtain ⟨pending, fragments⟩ := cut
  rcases pending with _ | ⟨inner, closing⟩ <;> cases kind : c.brace? with
    | none => simp [Cut.prepend, kind, Cut.settled]
    | some brace => cases brace <;> simp_all [Cut.prepend, Cut.settled]

/-- Flat text is ordinary text. -/
theorem fragments_flat_append {h rest : Text} (flat : Flat h)
    (apart : rest.braces.head? ≠ some .closing) :
    fragments CodePoint.brace? (h ++ rest) =
      h.map .outside ++ fragments CodePoint.brace? rest := by
  induction h with
  | nil => rfl
  | cons c h ih =>
    have flat' : Flat h := flat.of_braces_sublist (by simp [Text.braces_cons])
    have others := ih flat'
    change (cutOf (h ++ rest)).settled = _ at others
    change (cutOf (c :: (h ++ rest))).settled = _
    rw [cutOf_cons, settled_prepend, others]
    · rfl
    · intro opening
      have unclosed : Brace.closing ∉ Text.braces h := (flat_cons_opening opening h).mp flat
      rw [pending_cutOf, Text.braces_append]
      cases braces : Text.braces h with
      | nil => simpa using apart
      | cons brace others =>
        rintro ⟨⟩
        simp [braces] at unclosed

/-- A block is cut off in front of the rest. -/
theorem fragments_block {inner : Text} (none : inner.braces = []) (rest : Text) :
    fragments CodePoint.brace? (.leftBrace :: (inner ++ .rightBrace :: rest)) =
      .block .leftBrace inner .rightBrace :: fragments CodePoint.brace? rest := by
  have pending : cutOf (inner ++ .rightBrace :: rest) =
      ⟨some (inner, .rightBrace), fragments CodePoint.brace? rest⟩ := by
    induction inner with
    | nil => rfl
    | cons c inner ih =>
      have plain := Text.braces_eq_nil_iff.mp none
      have others := ih (Text.braces_eq_nil_iff.mpr fun d hd => plain d (List.mem_cons_of_mem _ hd))
      rw [List.cons_append, cutOf_cons, others]
      simp [Cut.prepend, plain c List.mem_cons_self]
  change (cutOf (.leftBrace :: (inner ++ .rightBrace :: rest))).settled = _
  rw [cutOf_cons, pending]
  rfl

end Fragment

namespace Template

variable (drop : Bool)

theorem settleBlocks_flat_append {h rest : Text} (flat : Flat h)
    (apart : rest.braces.head? ≠ some .closing) :
    settleBlocks drop (h ++ rest) = h ++ settleBlocks drop rest := by
  have plain : (h.map Fragment.outside).flatMap
      (fun f => if drop then f.dropped else f.kept) = h := by
    induction h with
    | nil => rfl
    | cons c h ih =>
      rw [List.map_cons, List.flatMap_cons,
        ih (flat.of_braces_sublist (by simp [Text.braces_cons]))]
      cases drop <;> rfl
  rw [settleBlocks, Fragment.fragments_flat_append flat apart, List.flatMap_append, plain,
    ← settleBlocks]

theorem settleBlocks_block {inner : Text} (none : inner.braces = []) (rest : Text) :
    settleBlocks drop (.leftBrace :: (inner ++ .rightBrace :: rest)) =
      (if drop then [] else inner) ++ settleBlocks drop rest := by
  rw [settleBlocks, Fragment.fragments_block none, List.flatMap_cons, ← settleBlocks]
  cases drop <;> rfl

theorem settleBlocks_flat {t : Text} (flat : Flat t) : settleBlocks drop t = t := by
  have ends : (Text.braces []).head? ≠ some .closing := by simp
  have whole := settleBlocks_flat_append drop flat ends
  rwa [List.append_nil, show settleBlocks drop [] = [] from rfl, List.append_nil] at whole

/-- Settling invents nothing. -/
theorem mem_of_mem_settleBlocks {t : Text} {c : CodePoint}
    (mem : c ∈ settleBlocks drop t) : c ∈ t := by
  obtain ⟨fragment, among, within⟩ := List.mem_flatMap.mp mem
  rw [← items_fragments CodePoint.brace? t]
  refine List.mem_flatMap.mpr ⟨fragment, among, ?_⟩
  cases fragment <;> cases drop <;> simp_all [Fragment.kept, Fragment.dropped, Fragment.items]

end Template

/-- A block of an outline without its braces, and the text up to the next one. -/
structure Outline.Block where
  inner : Text
  following : Text
  deriving DecidableEq

structure Outline where
  head : Text
  blocks : List Outline.Block
  deriving DecidableEq

namespace Outline

/-- A block with its braces and what follows it. -/
def Block.text (b : Block) : Text :=
  .leftBrace :: (b.inner ++ .rightBrace :: b.following)

/-- An outline written out again. -/
def text (o : Outline) : Text :=
  o.head ++ o.blocks.flatMap Block.text

/-- The text outside the blocks, with the inner texts of the blocks in place or left out. -/
def settled (drop : Bool) (o : Outline) : Text :=
  o.head ++ o.blocks.flatMap fun b => (if drop then [] else b.inner) ++ b.following

/-- The outline cuts the text at its innermost pairs: no brace stands within a block, and no pair
outside of the blocks. -/
structure IsCut (o : Outline) (t : Text) : Prop where
  whole : o.text = t
  head : Flat o.head
  inner : ∀ b ∈ o.blocks, b.inner.braces = []
  following : ∀ b ∈ o.blocks, Flat b.following

/-- The rest of an outline behind its first block. -/
theorem IsCut.tail {head : Text} {b : Block} {blocks : List Block} {t : Text}
    (cut : IsCut ⟨head, b :: blocks⟩ t) :
    IsCut ⟨b.following, blocks⟩ (Outline.mk b.following blocks).text where
  whole := rfl
  head := cut.following b List.mem_cons_self
  inner b' mem := cut.inner b' (List.mem_cons_of_mem _ mem)
  following b' mem := cut.following b' (List.mem_cons_of_mem _ mem)

theorem text_cons (head : Text) (b : Block) (blocks : List Block) :
    (Outline.mk head (b :: blocks)).text =
      head ++ .leftBrace :: (b.inner ++ .rightBrace :: (Outline.mk b.following blocks).text) := by
  simp [text, Block.text]

/-- **Every text has an outline.** From the right, an opening brace makes a block with the first
closing brace of the head, if there is one. -/
theorem exists_isCut (t : Text) : ∃ o : Outline, o.IsCut t := by
  induction t with
  | nil => exact ⟨⟨[], []⟩, rfl, flat_of_braces_eq_nil rfl, by simp, by simp⟩
  | cons c t ih =>
    obtain ⟨⟨head, blocks⟩, whole, flat, inner, following⟩ := ih
    by_cases opening : c.brace? = some .opening
    · by_cases closes : Brace.closing ∈ head.braces
      · obtain rfl := CodePoint.brace?_eq_opening.mp opening
        -- The head is flat, so that its first brace has to be a closing one.
        have first : head.braces.head? = some .closing := by
          cases braces : head.braces with
          | nil => simp [braces] at closes
          | cons brace others =>
            cases brace with
            | closing => rfl
            | opening =>
              refine absurd ?_ flat
              simpa [braces] using closes
        obtain ⟨x, after, rfl, none⟩ := split_at_first_closing first
        have flat' : Flat after := flat.of_braces_sublist (by simp)
        refine ⟨⟨[], ⟨x, after⟩ :: blocks⟩, ?_, flat_of_braces_eq_nil rfl, ?_, ?_⟩
        · rw [text_cons, ← whole]
          simp [text]
        · simpa [none] using inner
        · simpa [flat'] using following
      · refine ⟨⟨c :: head, blocks⟩, ?_, (flat_cons_opening opening head).mpr closes, inner,
          following⟩
        rw [← whole]
        rfl
    · refine ⟨⟨c :: head, blocks⟩, ?_, (flat_cons_of_not_opening opening head).mpr flat, inner,
        following⟩
      rw [← whole]
      rfl

/-- **What the blocks are settled to.** -/
theorem IsCut.settleBlocks_eq {o : Outline} {t : Text} (cut : o.IsCut t) (drop : Bool) :
    Template.settleBlocks drop t = o.settled drop := by
  obtain ⟨head, blocks⟩ := o
  obtain rfl := cut.whole
  induction blocks generalizing head with
  | nil => simpa [text, settled] using Template.settleBlocks_flat drop cut.head
  | cons b blocks ih =>
    rw [text_cons, Template.settleBlocks_flat_append drop cut.head (by simp),
      Template.settleBlocks_block drop (cut.inner b List.mem_cons_self), ih b.following cut.tail]
    simp [settled]

/-- Settling takes at least the braces of every block away. -/
theorem length_settled_le (o : Outline) (drop : Bool) :
    (o.settled drop).length + 2 * o.blocks.length ≤ o.text.length := by
  obtain ⟨head, blocks⟩ := o
  induction blocks with
  | nil => simp [settled, text]
  | cons b blocks ih =>
    have inner : (if drop then [] else b.inner).length ≤ b.inner.length := by
      cases drop <;> simp
    simp only [settled, text, List.flatMap_cons, List.length_append, List.length_cons] at ih ⊢
    simp only [Block.text, List.length_cons, List.length_append]
    omega

end Outline

/-- **Settling changes a text exactly if it has a pair.** -/
theorem Template.settleBlocks_eq_self_iff {t : Text} {drop : Bool} :
    Template.settleBlocks drop t = t ↔ Flat t := by
  constructor
  · intro unchanged
    obtain ⟨⟨head, blocks⟩, cut⟩ := Outline.exists_isCut t
    have length := Outline.length_settled_le ⟨head, blocks⟩ drop
    rw [← cut.settleBlocks_eq drop, cut.whole, unchanged] at length
    obtain rfl : blocks = [] := List.eq_nil_of_length_eq_zero (by simp only at length; omega)
    have whole : head = t := by simpa [Outline.text] using cut.whole
    exact whole ▸ cut.head
  · exact settleBlocks_flat drop

/-- An offset in a flat stretch lies in no block, if none can begin before the stretch or end
behind it. -/
theorem not_enclosed_of_flat {before h rest : Text} (flat : Flat h)
    (opens : before.braces.getLast? ≠ some .opening) (closes : rest.braces.head? ≠ some .closing)
    {k : Nat} (bound : k ≤ h.length) :
    Template.enclosed (before ++ (h ++ rest)) (before.length + k) = false := by
  rw [Bool.eq_false_iff, ne_eq, enclosed_iff, List.take_length_add_append,
    List.drop_length_add_append, List.take_append_of_le_length bound,
    List.drop_append_of_le_length bound, Text.braces_append, Text.braces_append]
  rintro ⟨last, first⟩
  have left : Brace.opening ∈ Text.braces (h.take k) := by
    rw [List.getLast?_append, Option.or_eq_some_iff] at last
    rcases last with within | ⟨-, outside⟩
    · exact List.mem_of_getLast? within
    · exact absurd outside opens
  have right : Brace.closing ∈ Text.braces (h.drop k) := by
    rw [List.head?_append, Option.or_eq_some_iff] at first
    rcases first with within | ⟨-, outside⟩
    · exact List.mem_of_head? within
    · exact absurd outside closes
  refine flat ?_
  rw [← List.take_append_drop k h, Text.braces_append]
  exact (List.singleton_sublist.mpr left).append (List.singleton_sublist.mpr right)

/-- An offset behind the opening brace of a pair and up to the closing one lies in a block. -/
theorem enclosed_of_inner {before inner rest : Text} (none : inner.braces = []) {k : Nat}
    (bound : k ≤ inner.length) :
    Template.enclosed (before ++ .leftBrace :: (inner ++ .rightBrace :: rest))
      (before.length + 1 + k) = true := by
  rw [enclosed_iff, Nat.add_assoc, Nat.add_comm 1, List.take_length_add_append,
    List.drop_length_add_append, List.take_succ_cons, List.drop_succ_cons,
    List.take_append_of_le_length bound, List.drop_append_of_le_length bound]
  simp [Text.braces_take_of_nil none, Text.braces_drop_of_nil none]

theorem Closes.first_brace {t : Text} {stop : Nat} (closes : Closes t stop) :
    t.braces.head? = some .closing := by
  obtain ⟨inner, after, rfl, none, -⟩ := closes
  simp [none]

/-- Behind a code point that opens no pair, the pairs are those of the rest. -/
theorem innermostPair_cons_of_not_opens {c : CodePoint} {t : Text} {start stop : Nat}
    (apart : c = .leftBrace → t.braces.head? ≠ some .closing) :
    InnermostPair (c :: t) start stop ↔
      ∃ start' stop', InnermostPair t start' stop' ∧ start = start' + 1 ∧ stop = stop' + 1 := by
  rw [innermostPair_cons, or_iff_left]
  rintro ⟨left, -, stop', closes, -⟩
  exact apart left closes.first_brace

/-- A flat stretch has no pair, and none begins in it if it opens no brace that the rest closes. -/
theorem innermostPair_append {h rest : Text} (flat : Flat h)
    (apart : Brace.opening ∈ h.braces → rest.braces.head? ≠ some .closing) {start stop : Nat} :
    InnermostPair (h ++ rest) start stop ↔ ∃ start' stop', InnermostPair rest start' stop' ∧
      start = h.length + start' ∧ stop = h.length + stop' := by
  induction h generalizing start stop with
  | nil => simp
  | cons c h ih =>
    have flat' : Flat h := flat.of_braces_sublist (by simp [Text.braces_cons])
    have unopened : c = .leftBrace → (Text.braces (h ++ rest)).head? ≠ some .closing := by
      rintro rfl
      have unclosed := (flat_cons_opening CodePoint.brace?_leftBrace h).mp flat
      rw [Text.braces_append, List.head?_append, ne_eq, Option.or_eq_some_iff]
      rintro (within | ⟨-, outside⟩)
      · exact unclosed (List.mem_of_head? within)
      · exact apart (by simp) outside
    have apart' : Brace.opening ∈ Text.braces h → rest.braces.head? ≠ some .closing :=
      fun opens => apart (by simp [Text.braces_cons, opens])
    rw [List.cons_append, innermostPair_cons_of_not_opens unopened]
    simp only [ih flat' apart', List.length_cons]
    constructor
    · rintro ⟨_, _, ⟨start, stop, pair, rfl, rfl⟩, rfl, rfl⟩
      exact ⟨start, stop, pair, by omega, by omega⟩
    · rintro ⟨start, stop, pair, rfl, rfl⟩
      exact ⟨_, _, ⟨start, stop, pair, rfl, rfl⟩, by omega, by omega⟩

theorem closes_append {inner rest : Text} (none : inner.braces = []) {stop : Nat} :
    Closes (inner ++ .rightBrace :: rest) stop ↔ stop = inner.length := by
  constructor
  · intro closes
    induction inner generalizing stop with
    | nil =>
      rcases closes_cons.mp closes with ⟨-, rfl⟩ | ⟨plain, -⟩
      · rfl
      · simp at plain
    | cons c inner ih =>
      have plain := Text.braces_eq_nil_iff.mp none
      have none' := Text.braces_eq_nil_iff.mpr fun d hd => plain d (List.mem_cons_of_mem _ hd)
      rcases closes_cons.mp closes with ⟨rfl, -⟩ | ⟨-, stop, behind, rfl⟩
      · exact absurd (plain _ List.mem_cons_self) (by simp)
      · rw [ih none' behind, List.length_cons]
  · rintro rfl
    exact ⟨inner, rest, rfl, none, rfl⟩

/-- A block is a pair in front of those of the rest. -/
theorem innermostPair_block {inner rest : Text} (none : inner.braces = []) {start stop : Nat} :
    InnermostPair (.leftBrace :: (inner ++ .rightBrace :: rest)) start stop ↔
      start = 0 ∧ stop = inner.length + 1 ∨
        ∃ start' stop', InnermostPair rest start' stop' ∧
          start = inner.length + 2 + start' ∧ stop = inner.length + 2 + stop' := by
  have closed : CodePoint.rightBrace = .leftBrace → rest.braces.head? ≠ some .closing :=
    fun same => absurd same CodePoint.rightBrace_ne_leftBrace
  rw [innermostPair_cons, or_comm]
  simp only [closes_append none, innermostPair_append (flat_of_braces_eq_nil none) (by simp [none]),
    innermostPair_cons_of_not_opens closed, true_and]
  refine or_congr (by simp) ?_
  constructor
  · rintro ⟨_, _, ⟨_, _, ⟨start, stop, pair, rfl, rfl⟩, rfl, rfl⟩, rfl, rfl⟩
    exact ⟨start, stop, pair, by omega, by omega⟩
  · rintro ⟨start, stop, pair, rfl, rfl⟩
    exact ⟨_, _, ⟨_, _, ⟨start, stop, pair, rfl, rfl⟩, rfl, rfl⟩, by omega, by omega⟩

namespace Outline

/-- **The blocks of an outline are the innermost pairs of its text.** -/
theorem IsCut.innermostPair_iff {o : Outline} {t : Text} (cut : o.IsCut t) {start stop : Nat} :
    InnermostPair t start stop ↔ ∃ before b after, o.blocks = before ++ b :: after ∧
      start = (Outline.mk o.head before).text.length ∧ stop = start + b.inner.length + 1 := by
  obtain ⟨head, blocks⟩ := o
  obtain rfl := cut.whole
  induction blocks generalizing head start stop with
  | nil =>
    have ends : Brace.opening ∈ head.braces → (Text.braces []).head? ≠ some .closing := by simp
    have none : ¬ InnermostPair (head ++ []) start stop := by
      rw [innermostPair_append cut.head ends]
      rintro ⟨_, _, pair, -⟩
      exact not_innermostPair_nil pair
    simpa [text] using none
  | cons b blocks ih =>
    rw [text_cons, innermostPair_append cut.head (by simp)]
    simp only [innermostPair_block (cut.inner b List.mem_cons_self), ih b.following cut.tail]
    constructor
    · rintro ⟨_, _, ⟨rfl, rfl⟩ | ⟨_, _, ⟨before, b', after, rfl, rfl, rfl⟩, rfl, rfl⟩, rfl, rfl⟩
      · exact ⟨[], b, blocks, rfl, by simp [text], by simp [Nat.add_assoc]⟩
      · refine ⟨b :: before, b', after, rfl, ?_, ?_⟩
        · rw [text_cons]
          simp only [List.length_append, List.length_cons]
          omega
        · omega
    · rintro ⟨before, b', after, split, rfl, rfl⟩
      cases before with
      | nil =>
        obtain ⟨rfl, rfl⟩ := List.cons.inj split
        exact ⟨0, _, .inl ⟨rfl, rfl⟩, by simp [text], by simp [text, Nat.add_assoc]⟩
      | cons b'' before =>
        obtain ⟨rfl, rfl⟩ := List.cons.inj split
        refine ⟨_, _, .inr ⟨_, _, ⟨before, b', after, rfl, rfl, rfl⟩, rfl, rfl⟩, ?_, ?_⟩ <;>
          · rw [text_cons]
            simp only [List.length_append, List.length_cons]
            omega

/-- Between the braces of a block of the outline. -/
def Interior (o : Outline) (offset : Nat) : Prop :=
  ∃ before b after, o.blocks = before ++ b :: after ∧
    (Outline.mk o.head before).text.length < offset ∧
    offset ≤ (Outline.mk o.head before).text.length + b.inner.length

/-- What lies inside a pair of the text lies in a block of the outline. -/
theorem IsCut.interior_iff_inside {o : Outline} {t : Text} (cut : o.IsCut t) {offset : Nat} :
    o.Interior offset ↔ Inside t offset := by
  simp only [Inside, cut.innermostPair_iff, Interior]
  constructor
  · rintro ⟨before, b, after, split, low, high⟩
    exact ⟨_, _, ⟨before, b, after, split, rfl, rfl⟩, low, Nat.lt_succ_of_le high⟩
  · rintro ⟨_, _, ⟨before, b, after, split, rfl, rfl⟩, low, high⟩
    exact ⟨before, b, after, split, low, Nat.le_of_lt_succ high⟩

end Outline

end SqlTemplate
