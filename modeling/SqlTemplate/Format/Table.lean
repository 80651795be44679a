import SqlTemplate.Format.Container

/-!
# Formatters by kind

A table says which formatter writes the arguments of which kind of placeholder. A kind that a table
leaves out cannot be compiled.
-/

namespace SqlTemplate

abbrev Formatter := Value → Draft

/-- The formatter of each kind of placeholder, as far as it is known. -/
abbrev FormatterTable := Token → Option Formatter

namespace FormatterTable

/-- The formatters where there is memory for integers of so many digits. -/
def formatterWithin (memory : Nat) : Token → Formatter
  | .integer => Format.integerWithin memory
  | .float => Format.float
  | .list => Format.list
  | .name => Format.name
  | .any => Format.scalar

def formatter : Token → Formatter :=
  formatterWithin Decimal.conversionDigits

def standard : FormatterTable :=
  fun token => some (formatter token)

def without (table : FormatterTable) (dropped : Token) : FormatterTable :=
  fun token => if token = dropped then none else table token

end FormatterTable

end SqlTemplate
