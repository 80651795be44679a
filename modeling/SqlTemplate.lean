import SqlTemplate.Json.Printer
import SqlTemplate.Service.Handle
import SqlTemplate.Session
import SqlTemplate.Settings.Read
import SqlTemplate.Value.Equality
import SqlTemplate.Proofs.Acceptance
import SqlTemplate.Proofs.ArgumentCount
import SqlTemplate.Proofs.Binding
import SqlTemplate.Proofs.BlockRemoval
import SqlTemplate.Proofs.BraceWarnings
import SqlTemplate.Proofs.Braces
import SqlTemplate.Proofs.Concatenation
import SqlTemplate.Proofs.ConnectionLife
import SqlTemplate.Proofs.Containment
import SqlTemplate.Proofs.Digits
import SqlTemplate.Proofs.Endpoint
import SqlTemplate.Proofs.EscapeCalls
import SqlTemplate.Proofs.Faults
import SqlTemplate.Proofs.FixedPoint
import SqlTemplate.Proofs.Formatters
import SqlTemplate.Proofs.IntegerReading
import SqlTemplate.Proofs.Interleaving
import SqlTemplate.Proofs.ItemReading
import SqlTemplate.Proofs.Lexing
import SqlTemplate.Proofs.LiteralReading
import SqlTemplate.Proofs.LiteralWarnings
import SqlTemplate.Proofs.LongestLiteral
import SqlTemplate.Proofs.LongestNumeral
import SqlTemplate.Proofs.NameReading
import SqlTemplate.Proofs.NearestFloat
import SqlTemplate.Proofs.Nesting
import SqlTemplate.Proofs.NumberReading
import SqlTemplate.Proofs.NumberText
import SqlTemplate.Proofs.NumeralValue
import SqlTemplate.Proofs.OnePass
import SqlTemplate.Proofs.Outline
import SqlTemplate.Proofs.Pieces
import SqlTemplate.Proofs.Provenance
import SqlTemplate.Proofs.Rendering
import SqlTemplate.Proofs.Repair
import SqlTemplate.Proofs.RequestArguments
import SqlTemplate.Proofs.ResponseStatus
import SqlTemplate.Proofs.Separated
import SqlTemplate.Proofs.SessionDialects
import SqlTemplate.Proofs.TextNumbers
import SqlTemplate.Proofs.Truncation
import SqlTemplate.Proofs.Utf8Spelling
import SqlTemplate.Proofs.ValueBraces
import SqlTemplate.Proofs.WarningOrder
