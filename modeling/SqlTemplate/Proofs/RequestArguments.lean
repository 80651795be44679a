import SqlTemplate.Proofs.Formatters
import SqlTemplate.Service.Body
import SqlTemplate.Template.Compile

/-!
# The arguments of a request

Among the arguments of a request a marker becomes a skip signal of its own and any other JSON value
stands for itself (`Resolves`). All lists of values that do so compile alike, whichever signals they
hold (`compile_eq_of_resolves`).
-/

namespace SqlTemplate

namespace Json

mutual

/-- The strings in a JSON value, the names of members included. -/
def strings : Json → List Text
  | .null | .bool _ | .int _ | .float _ => []
  | .string t => [t]
  | .array items => itemStrings items
  | .object members => memberStrings members

def itemStrings : List Json → List Text
  | [] => []
  | item :: rest => strings item ++ itemStrings rest

def memberStrings : List (Text × Json) → List Text
  | [] => []
  | (name, item) :: rest => name :: (strings item ++ memberStrings rest)

end

theorem mem_itemStrings {items : List Json} {t : Text} :
    t ∈ itemStrings items ↔ ∃ item ∈ items, t ∈ item.strings := by
  induction items with
  | nil => simp [itemStrings]
  | cons item items ih => simp [itemStrings, ih]

theorem mem_memberStrings {members : List (Text × Json)} {t : Text} :
    t ∈ memberStrings members ↔ ∃ m ∈ members, t = m.1 ∨ t ∈ m.2.strings := by
  induction members with
  | nil => simp [memberStrings]
  | cons member members ih => simp [memberStrings, ih, or_assoc]

theorem strings_member? {j item : Json} {name : Text} (found : j.member? name = some item) :
    item.strings ⊆ j.strings := by
  cases j with
  | object members =>
    obtain ⟨member, first, rfl⟩ := Option.map_eq_some_iff.mp found
    exact fun t mem => mem_memberStrings.mpr ⟨member, List.mem_of_find?_eq_some first, .inr mem⟩
  | _ => simp [member?] at found

/-- An object whose only member is `$skip` with the value true. -/
def skipMarker : Json :=
  .object [("$skip", .bool true)]

end Json

namespace Body

theorem isSkipMarker_iff {j : Json} : isSkipMarker j = true ↔ j = Json.skipMarker := by
  constructor
  · intro marked
    unfold isSkipMarker at marked
    split at marked
    · obtain rfl := of_decide_eq_true marked
      rfl
    · simp at marked
  · rintro rfl
    rfl

mutual

/-- A JSON value as an argument holds the same strings. -/
theorem texts_value : ∀ j : Json, (value j).texts = j.strings
  | .null | .bool _ | .int _ | .float _ | .string _ => by
    simp [value, Value.texts, Value.shown?, Json.strings]
  | .array items => by simp [value, Value.texts, Json.strings, texts_values items]
  | .object members => by simp [value, Value.texts, Json.strings, texts_entries members]

theorem texts_values : ∀ items : List Json, Value.itemTexts (values items) = Json.itemStrings items
  | [] => by simp [values, Value.itemTexts, Json.itemStrings]
  | item :: rest => by
    simp [values, Value.itemTexts, Json.itemStrings, texts_value item, texts_values rest]

theorem texts_entries :
    ∀ members : List (Text × Json), Value.entryTexts (entries members) = Json.memberStrings members
  | [] => by simp [entries, Value.entryTexts, Json.memberStrings]
  | (name, item) :: rest => by
    simp [entries, Value.entryTexts, Json.memberStrings, texts_value item, texts_entries rest,
      Value.texts, Value.shown?]

end

theorem isSkip_value (j : Json) : (value j).isSkip = false := by
  cases j <;> simp [value, Value.isSkip]

end Body

/-- The arguments that some JSON values stand for: in the place of each marker a skip signal that no
other place has, and in every other place the value itself. -/
structure Resolves (args : List Json) (values : List Value) : Prop where
  length : values.length = args.length
  marker : ∀ i : Nat, args[i]? = some Json.skipMarker →
    ∃ signal, values[i]? = some (Value.skip signal)
  other : ∀ (i : Nat) j, args[i]? = some j → j ≠ Json.skipMarker → values[i]? = some (Body.value j)
  fresh : ∀ (i k : Nat) signal, values[i]? = some (Value.skip signal) →
    values[k]? = some (Value.skip signal) → i = k

theorem Body.getElem?_resolve (args : List Json) (i : Nat) :
    (resolve args)[i]? =
      args[i]?.map fun j => if isSkipMarker j then .skip ⟨i⟩ else value j := by
  simp [resolve, List.getElem?_zipIdx, Function.comp_def]

theorem Body.resolves_resolve (args : List Json) : Resolves args (resolve args) where
  length := by simp [resolve]
  marker i at_i := by
    rw [getElem?_resolve, at_i, Option.map_some, if_pos (isSkipMarker_iff.mpr rfl)]
    exact ⟨⟨i⟩, rfl⟩
  other i j at_i unmarked := by
    rw [getElem?_resolve, at_i, Option.map_some, if_neg (mt isSkipMarker_iff.mp unmarked)]
  fresh i k signal at_i at_k := by
    have numbered {n : Nat} (at_n : (resolve args)[n]? = some (.skip signal)) : signal = ⟨n⟩ := by
      rw [getElem?_resolve] at at_n
      obtain ⟨j, -, made⟩ := Option.map_eq_some_iff.mp at_n
      split at made
      · exact (Value.skip.inj made).symm
      · exact absurd (isSkip_value j) (by simp [made, Value.isSkip])
    exact congrArg SkipSignal.id ((numbered at_i).symm.trans (numbered at_k))

theorem Body.texts_resolve {args : List Json} {v : Value} {t : Text} (among : v ∈ resolve args)
    (held : t ∈ v.texts) : ∃ j ∈ args, t ∈ j.strings := by
  obtain ⟨i, at_i⟩ := List.mem_iff_getElem?.mp among
  rw [getElem?_resolve] at at_i
  obtain ⟨j, found, rfl⟩ := Option.map_eq_some_iff.mp at_i
  refine ⟨j, List.mem_of_getElem? found, ?_⟩
  split at held
  · simp [Value.texts, Value.shown?] at held
  · exact texts_value j ▸ held

/-- A value with its skip signal replaced by one and the same for all. -/
def Value.anonymous : Value → Value
  | .skip _ => .skip ⟨0⟩
  | v => v

theorem Value.anonymous_of_not_skip {v : Value} (plain : v.isSkip = false) : v.anonymous = v := by
  cases v <;> simp_all [anonymous, isSkip]

/-- Resolved arguments are settled up to the identity of their signals. -/
theorem Resolves.map_anonymous {args : List Json} {values : List Value}
    (resolves : Resolves args values) : values.map Value.anonymous =
      args.map fun j => if Body.isSkipMarker j then .skip ⟨0⟩ else Body.value j := by
  refine List.ext_getElem? fun i => ?_
  rw [List.getElem?_map, List.getElem?_map]
  cases at_i : args[i]? with
  | none =>
    rw [List.getElem?_eq_none_iff, ← resolves.length, ← List.getElem?_eq_none_iff] at at_i
    rw [at_i]
    rfl
  | some j =>
    rw [Option.map_some]
    by_cases marked : j = Json.skipMarker
    · obtain ⟨signal, found⟩ := resolves.marker i (marked ▸ at_i)
      rw [found, if_pos (Body.isSkipMarker_iff.mpr marked)]
      rfl
    · rw [resolves.other i j at_i marked, if_neg (mt Body.isSkipMarker_iff.mp marked),
        Option.map_some, Value.anonymous_of_not_skip (Body.isSkip_value j)]

namespace Template

variable (table : FormatterTable) (d : Dialect) (text : Text)

theorem slotDraft_anonymous (blocks : List Span) (slot : Slot) (v : Value) :
    slotDraft table blocks slot v.anonymous = slotDraft table blocks slot v := by
  cases v <;> rfl

theorem draft_anonymous (args : List Value) :
    draft table text (args.map Value.anonymous) = draft table text args := by
  simp [draft, List.zip_map_right, Function.comp_def, slotDraft_anonymous]

theorem containsSkip_anonymous (args : List Value) :
    Value.containsSkip (args.map Value.anonymous) = Value.containsSkip args := by
  have same (v : Value) : v.anonymous.isSkip = v.isSkip := by cases v <;> rfl
  simp [Value.containsSkip, Function.comp_def, same]

/-- Skip signals are all the same to a compilation. -/
theorem compile_anonymous (args : List Value) :
    compile table d text (args.map Value.anonymous) = compile table d text args := by
  simp only [compile, substitute, draft_anonymous, containsSkip_anonymous]

theorem compile_eq_of_resolves {args : List Json} {first second : List Value}
    (left : Resolves args first) (right : Resolves args second) :
    compile table d text first = compile table d text second := by
  rw [← compile_anonymous, left.map_anonymous, ← right.map_anonymous, compile_anonymous]

end Template

end SqlTemplate
