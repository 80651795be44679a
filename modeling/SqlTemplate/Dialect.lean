import SqlTemplate.Error

/-!
# Dialects

A dialect knows how strings are escaped and which quote encloses identifiers. The escape function
belongs to a database client and may fail.
-/

namespace SqlTemplate

abbrev Escape := Text → Except Fault Text

structure Dialect where
  escape : Escape
  quote : CodePoint

namespace Dialect

/-- The default escape: a backslash form for each code point that a string literal must not hold. -/
def escapeCodePoint (c : CodePoint) : Text :=
  if c.val = 0 then "\\0"
  else if c = '\n' then "\\n"
  else if c = '\r' then "\\r"
  else if c.val = 0x1A then "\\Z"
  else if c = '\x22' then "\\\""
  else if c = '\x27' then "\\'"
  else if c = '\\' then "\\\\"
  else [c]

def escapeText (t : Text) : Text :=
  t.flatMap escapeCodePoint

def defaultEscape : Escape :=
  fun t => .ok (escapeText t)

def backquote : CodePoint := CodePoint.ofChar '\x60'

def default : Dialect :=
  ⟨defaultEscape, backquote⟩

/-- A quote has to be a single code point. -/
def make (escape : Escape) : Text → Except Fault Dialect
  | [quote] => .ok ⟨escape, quote⟩
  | _ => .error .invalidQuote

/-- A text with every `quote` written twice. -/
def doubled (quote : CodePoint) (t : Text) : Text :=
  t.flatMap fun c => if c = quote then [c, c] else [c]

/-- An escaped name between quotes. -/
def enclose (d : Dialect) (escaped : Text) : Text :=
  d.quote :: (doubled d.quote escaped ++ [d.quote])

def quoteIdentifier (d : Dialect) (name : Text) : Except Fault Text :=
  (d.escape name).map d.enclose

end Dialect

end SqlTemplate
