import SqlTemplate.Format.Table
import SqlTemplate.Template.Block
import SqlTemplate.Template.Slot

/-!
# Compiling a template

Arguments are bound to the placeholders from left to right and written in place; then the blocks of
the resulting text are dropped if any argument is a skip signal, and lose their braces if none is.
The first placeholder that has no argument, or whose argument does not fit, decides the failure.
-/

namespace SqlTemplate.Template

/-- The draft of one argument. A skip signal leaves its placeholder empty inside a block, which will
be dropped, and has no place anywhere else. -/
def slotDraft (table : FormatterTable) (blocks : List Span) (slot : Slot) : Value → Draft
  | .skip _ =>
    if blocks.any (·.encloses slot.offset) then .empty
    else .mismatch slot.token .skipOutsideBlock
  | v =>
    match table slot.token with
    | some format => format v
    | none => .fail (.query (.unknownPlaceholder slot.token))

/-- Fails for the first placeholder that `supplied` arguments do not reach. -/
def shortage (slots : List Slot) (supplied : Nat) : Draft :=
  match slots.drop supplied with
  | [] => .empty
  | slot :: _ => .fail (.query (.insufficientArguments slot.token slot.offset supplied))

/-- The template with its arguments in place. -/
def draft (table : FormatterTable) (text : Text) (args : List Value) : Draft :=
  let template := parse text
  let spans := blocks text
  let bound := template.slots.zip args
  Draft.sql template.head ++
    (Draft.concat (bound.map fun (slot, v) =>
        slotDraft table spans slot v ++ Draft.sql slot.following) ++
      shortage template.slots args.length)

/-- Writes the arguments into the template and leaves the blocks as they are. -/
def substitute (table : FormatterTable) (d : Dialect) (text : Text) (args : List Value) :
    Rendering :=
  (draft table text args).render d

def compile (table : FormatterTable) (d : Dialect) (text : Text) (args : List Value) : Rendering :=
  let rendering := substitute table d text args
  ⟨rendering.calls, rendering.result.map (settleBlocks (Value.containsSkip args))⟩

/-- How many arguments no placeholder binds. -/
def surplus (text : Text) (args : List Value) : Nat :=
  args.length - (parse text).slots.length

end SqlTemplate.Template
