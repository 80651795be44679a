import Mathlib.Data.List.Forall2
import SqlTemplate.Proofs.Rendering

/-!
# Items in a row

Drafts in a row are written one after the other with a comma and a blank between them, and the first
one that fails decides the failure (`Draft.failure_commaSeparated`). Who can read one item can read
the row again, if no item runs on over a separator (`Reader.separated?_join`).
-/

namespace SqlTemplate

namespace Draft

section
variable {α : Type} {d : Dialect} {draft : α → Draft} {items : List α} {text : Text}

theorem result_separated_eq_ok :
    ((concat ((items.map draft).map (sql ", " ++ ·))).render d).result = .ok text ↔
      ∃ texts, List.Forall₂ (fun item text => ((draft item).render d).result = .ok text)
          items texts ∧
        text = texts.flatMap (Text.ofString ", " ++ ·) := by
  induction items generalizing text with
  | nil => simp [concat, eq_comm]
  | cons item items ih =>
    rw [List.map_cons, List.map_cons, concat, List.foldr_cons, ← append_def, append_assoc,
      result_sql_append, map_eq_ok, ← concat]
    simp only [render_append, Rendering.result_andThen_eq_ok, ih]
    constructor
    · rintro ⟨_, ⟨first, _, written, ⟨texts, others, rfl⟩, rfl⟩, rfl⟩
      exact ⟨first :: texts, .cons written others, by simp⟩
    · rintro ⟨texts, written, rfl⟩
      cases written with
      | @cons _ first _ texts written others =>
        exact ⟨_, ⟨first, _, written, ⟨texts, others, rfl⟩, rfl⟩, by simp⟩

/-- A row is written as the texts of its items with separators between them. -/
theorem result_commaSeparated_eq_ok :
    ((commaSeparated (items.map draft)).render d).result = .ok text ↔
      ∃ texts, List.Forall₂ (fun item text => ((draft item).render d).result = .ok text)
          items texts ∧
        text = Text.join ", " texts := by
  cases items with
  | nil => simp [commaSeparated, Text.join, eq_comm]
  | cons item items =>
    rw [List.map_cons, commaSeparated, render_append, Rendering.result_andThen_eq_ok]
    simp only [result_separated_eq_ok]
    constructor
    · rintro ⟨first, _, written, ⟨texts, others, rfl⟩, rfl⟩
      exact ⟨first :: texts, .cons written others, rfl⟩
    · rintro ⟨texts, written, rfl⟩
      cases written with
      | @cons _ first _ texts written others =>
        exact ⟨first, _, written, ⟨texts, others, rfl⟩, rfl⟩

end

end Draft

/-- Reads the item that a text begins with and hands back the rest, which is shorter. -/
structure Reader (α : Type) where
  read? : Text → Option (α × Text)
  shorter : ∀ {t a rest}, read? t = some (a, rest) → rest.length < t.length

/-- What was read is passed on, and the rest stays. -/
theorem map_fst_eq_some {α β : Type} {read : Option (α × Text)} {f : α → β} {b : β} {rest : Text} :
    (read.map fun (a, rest) => (f a, rest)) = some (b, rest) ↔
      ∃ a, read = some (a, rest) ∧ f a = b := by
  cases read with
  | none => simp
  | some found => simp [Prod.ext_iff, and_comm]

namespace Reader

variable {α : Type}

/-- Reads items as long as one follows behind a comma and a blank. -/
def separated? (reader : Reader α) (t : Text) : Option (List α × Text) :=
  match _found : reader.read? t with
  | none => none
  | some (a, rest) =>
    match _behind : Text.after? ", " rest with
    | none => some ([a], rest)
    | some next =>
      match reader.separated? next with
      | none => some ([a], rest)
      | some (others, rest) => some (a :: others, rest)
termination_by t.length
decreasing_by
  have item := reader.shorter _found
  have separator := congrArg List.length (Text.after?_eq_some_iff.mp _behind)
  rw [List.length_append] at separator
  omega

/-- Reads a text to its end as a row of items; the empty text is the row without items. -/
def all? (reader : Reader α) (t : Text) : Option (List α) :=
  if t = [] then some []
  else
    match reader.separated? t with
    | some (items, []) => some items
    | _ => none

variable {reader : Reader α}

theorem separated?_eq_none {t : Text} (unread : reader.read? t = none) :
    reader.separated? t = none := by
  rw [separated?]
  split
  · rfl
  · next found => simp [unread] at found

/-- The last item of a row: nothing that could be read follows behind a separator. -/
theorem separated?_last {t rest : Text} {a : α} (found : reader.read? t = some (a, rest))
    (ends : ∀ next, rest = Text.ofString ", " ++ next → reader.read? next = none) :
    reader.separated? t = some ([a], rest) := by
  rw [separated?]
  split
  · next unread => simp [unread] at found
  · next b rest' found' =>
    obtain ⟨rfl, rfl⟩ : a = b ∧ rest = rest' := by simpa [found] using found'
    split
    · rfl
    · next next behind =>
      have unread := ends next (Text.after?_eq_some_iff.mp behind)
      rw [separated?_eq_none unread]

theorem separated?_cons {t next rest : Text} {a : α} {others : List α}
    (found : reader.read? t = some (a, Text.ofString ", " ++ next))
    (follow : reader.separated? next = some (others, rest)) :
    reader.separated? t = some (a :: others, rest) := by
  rw [separated?]
  split
  · next unread => simp [unread] at found
  · next b rest' found' =>
    obtain ⟨rfl, rfl⟩ : a = b ∧ Text.ofString ", " ++ next = rest' := by simpa [found] using found'
    have behind : Text.after? ", " (Text.ofString ", " ++ next) = some next :=
      Text.after?_eq_some_iff.mpr rfl
    split
    · next missing => simp [behind] at missing
    · next next' behind' =>
      obtain rfl : next = next' := by simpa [behind] using behind'
      rw [follow]

/-- What can stand behind an item of a row that is itself followed by `rest`. -/
def Follows (rest behind : Text) : Prop :=
  behind = rest ∨ ∃ next, behind = Text.ofString ", " ++ next

/-- **A row is read item by item.** This needs that each item is read as such in front of a
separator and in front of the text behind the row, and that no item follows there. -/
theorem separated?_join {items : List α} {texts : List Text} {rest : Text}
    (reads : List.Forall₂ (fun a text => ∀ behind, Follows rest behind →
      reader.read? (text ++ behind) = some (a, behind)) items texts)
    (present : items ≠ [])
    (ends : ∀ next, rest = Text.ofString ", " ++ next → reader.read? next = none) :
    reader.separated? (Text.join ", " texts ++ rest) = some (items, rest) := by
  induction reads with
  | nil => exact absurd rfl present
  | @cons a text items texts read reads ih =>
    cases reads with
    | nil =>
      have whole : Text.join ", " [text] ++ rest = text ++ rest := by simp [Text.join]
      rw [whole]
      exact separated?_last (read rest (.inl rfl)) ends
    | @cons b second items texts read' reads =>
      have whole : Text.join ", " (text :: second :: texts) ++ rest =
          text ++ (Text.ofString ", " ++ (Text.join ", " (second :: texts) ++ rest)) := by
        simp [Text.join]
      rw [whole]
      exact separated?_cons (read _ (.inr ⟨_, rfl⟩)) (ih (by simp))

/-- A row of items that ends the text. -/
theorem all?_join {items : List α} {texts : List Text}
    (reads : List.Forall₂ (fun a text => ∀ behind, Follows [] behind →
      reader.read? (text ++ behind) = some (a, behind)) items texts) :
    reader.all? (Text.join ", " texts) = some items := by
  have row := separated?_join reads
  cases reads with
  | nil => rfl
  | @cons a text items texts read reads =>
    have first := reader.shorter (read [] (.inl rfl))
    have present : Text.join ", " (text :: texts) ≠ [] := by
      intro empty
      obtain ⟨rfl, -⟩ := List.append_eq_nil_iff.mp empty
      simp at first
    have whole := row (List.cons_ne_nil a items) (by simp [Text.ofString])
    rw [List.append_nil] at whole
    rw [all?, if_neg present, whole]

end Reader

end SqlTemplate
