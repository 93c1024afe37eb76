import RowMapping.Catalog
import RowMapping.Text.Blank
import RowMapping.Numeric.Binary
import RowMapping.Numeric.Shortest
import RowMapping.Json.Number
import RowMapping.Json.Numeral
import RowMapping.Json.Basic
import RowMapping.Json.Quoted
import RowMapping.Json.Token
import RowMapping.Json.Form
import RowMapping.Json.Text
import RowMapping.Value.Basic
import RowMapping.Error
import RowMapping.Value.FieldType
import RowMapping.Value.Serial
import RowMapping.Shape.Flags
import RowMapping.Shape.Basic
import RowMapping.Shape.Record
import RowMapping.Shape.Accessor
import RowMapping.Shape.AccessorCache
import RowMapping.ChangeSet
import RowMapping.Patch
import RowMapping.Sql.ObjectPath
import RowMapping.Sql.Delimiters
import RowMapping.Sql.Dialect
import RowMapping.Sql.Command
import RowMapping.TableMapping
import RowMapping.StatementSet
import RowMapping.Registry.Basic
import RowMapping.Registry.Interleaving
import RowMapping.Statement
import RowMapping.Workspace
import RowMapping.Settings
import RowMapping.Text.CodeTable
import RowMapping.Text.Unassigned
import RowMapping.Text.Extending
import RowMapping.Text.Invisible
import RowMapping.Text.Quoted
import RowMapping.Description
import RowMapping.Sql.Token
import RowMapping.Sql.Reader
import RowMapping.Shape.AccessorCache.Interleaving
import RowMapping.Proofs.Sql.Quoting
import RowMapping.Proofs.Sql.Spelling
import RowMapping.Proofs.Sql.Rendering
import RowMapping.Proofs.Distinct
import RowMapping.Proofs.RecordedNames
import RowMapping.Proofs.Mapping.Reflection
import RowMapping.Proofs.Mapping.StatementForm
import RowMapping.Proofs.Sql.Reading
import RowMapping.Proofs.ReadBack
import RowMapping.Proofs.Registry.Memory
import RowMapping.Proofs.Gateway.Operation
import RowMapping.Proofs.Record.Binding
import RowMapping.Proofs.BoundNames
import RowMapping.Proofs.BoundValues
import RowMapping.Proofs.Patch.Planning
import RowMapping.Proofs.Patch.Writing
import RowMapping.Proofs.ConsumedChanges
import RowMapping.Proofs.PatchOutcomes
import RowMapping.Proofs.GeneratedColumns
import RowMapping.Proofs.Readability
import RowMapping.Proofs.PatchedRows
import RowMapping.Proofs.PatchSequences
import RowMapping.Proofs.Gateway.Session
import RowMapping.Proofs.Memoization
import RowMapping.Proofs.DialectNeutrality
import RowMapping.Proofs.Value.RoundTrip
import RowMapping.Proofs.SameShapePatches
import RowMapping.Proofs.AcceptedMappings
import RowMapping.Proofs.Registry.Race
import RowMapping.Proofs.ConcurrentRequests
import RowMapping.Proofs.Gateway.Selection
import RowMapping.Proofs.SelectedDialect
import RowMapping.Proofs.WrittenNames
import RowMapping.Proofs.ListedParameters
import RowMapping.Proofs.Refusals
import RowMapping.Proofs.KeyPayloads
import RowMapping.Proofs.InertAttributes
import RowMapping.Proofs.FieldRoundTrips
import RowMapping.Proofs.Json.Numerals
import RowMapping.Proofs.Json.Strings
import RowMapping.Proofs.Json.Texts
import RowMapping.Proofs.WideningIntegers
import RowMapping.Proofs.Json.Documents
import RowMapping.Proofs.SerialTexts
import RowMapping.Proofs.QuotedIdentifiers
import RowMapping.Proofs.ParameterLookup
import RowMapping.Proofs.Catalog.Erasure
import RowMapping.Proofs.SharedTables
import RowMapping.Proofs.Accessors.Positions
import RowMapping.Proofs.AccessorLookup
