import SyntheticTables.CommandLine.Arguments
import SyntheticTables.CommandLine.Record
import SyntheticTables.CommandLine.Run
import SyntheticTables.Config.Check
import SyntheticTables.Config.Document
import SyntheticTables.Config.Load
import SyntheticTables.Config.Node
import SyntheticTables.Config.Schema
import SyntheticTables.Config.TypeDesc
import SyntheticTables.Decimal.Layout
import SyntheticTables.Decimal.Reading
import SyntheticTables.Decimal.Shortest
import SyntheticTables.Decode
import SyntheticTables.Draw.Basic
import SyntheticTables.Draw.Cell
import SyntheticTables.Draw.Convert
import SyntheticTables.Draw.Error
import SyntheticTables.Draw.Node
import SyntheticTables.Draw.Part
import SyntheticTables.Engine
import SyntheticTables.Export.Csv
import SyntheticTables.Export.Descriptor
import SyntheticTables.Export.Files
import SyntheticTables.Files
import SyntheticTables.Files.Tree
import SyntheticTables.Instant
import SyntheticTables.Json
import SyntheticTables.Json.Numeral
import SyntheticTables.Json.Printer
import SyntheticTables.Json.Reader
import SyntheticTables.Main
import SyntheticTables.Options
import SyntheticTables.Proofs.Attempts
import SyntheticTables.Proofs.Checks
import SyntheticTables.Proofs.Config.Arguments
import SyntheticTables.Proofs.Config.Culprit
import SyntheticTables.Proofs.Config.DeclaredType
import SyntheticTables.Proofs.Config.Fault
import SyntheticTables.Proofs.Config.Reading
import SyntheticTables.Proofs.Config.Replacement
import SyntheticTables.Proofs.Config.RoundTrip
import SyntheticTables.Proofs.Config.Seat
import SyntheticTables.Proofs.Config.ShownType
import SyntheticTables.Proofs.Config.SortedReading
import SyntheticTables.Proofs.Config.TextReading
import SyntheticTables.Proofs.Config.WellFormed
import SyntheticTables.Proofs.Decimal.Layout
import SyntheticTables.Proofs.Decimal.Place
import SyntheticTables.Proofs.Decimal.Shortest
import SyntheticTables.Proofs.DefaultStyle
import SyntheticTables.Proofs.Defaults
import SyntheticTables.Proofs.Domain.Interval
import SyntheticTables.Proofs.Domain.Levels
import SyntheticTables.Proofs.Domain.Part
import SyntheticTables.Proofs.Domain.Tree
import SyntheticTables.Proofs.Draw.Cell
import SyntheticTables.Proofs.Draw.Coverage
import SyntheticTables.Proofs.Draw.Footprint
import SyntheticTables.Proofs.Draw.Number
import SyntheticTables.Proofs.Draw.Outcome
import SyntheticTables.Proofs.Draw.Part
import SyntheticTables.Proofs.Draw.Repetition
import SyntheticTables.Proofs.Draw.Simple
import SyntheticTables.Proofs.Draw.Text
import SyntheticTables.Proofs.Draw.Tree
import SyntheticTables.Proofs.Draw.Uniqueness
import SyntheticTables.Proofs.Export.Agreement
import SyntheticTables.Proofs.Export.Csv
import SyntheticTables.Proofs.Export.Exporters
import SyntheticTables.Proofs.Export.Faithful
import SyntheticTables.Proofs.Export.FileNames
import SyntheticTables.Proofs.Export.Stored
import SyntheticTables.Proofs.Files
import SyntheticTables.Proofs.Files.Tree
import SyntheticTables.Proofs.Float
import SyntheticTables.Proofs.Float.Bounds
import SyntheticTables.Proofs.Float.Rounding
import SyntheticTables.Proofs.Json.Alike
import SyntheticTables.Proofs.Json.Member
import SyntheticTables.Proofs.Json.Pointer
import SyntheticTables.Proofs.Json.Printer
import SyntheticTables.Proofs.Json.Quoted
import SyntheticTables.Proofs.Json.Reader
import SyntheticTables.Proofs.Json.Sorted
import SyntheticTables.Proofs.LedgerFree
import SyntheticTables.Proofs.LocalUnique
import SyntheticTables.Proofs.NestedUnique
import SyntheticTables.Proofs.Random.Float
import SyntheticTables.Proofs.Random.Range
import SyntheticTables.Proofs.Record
import SyntheticTables.Proofs.Run
import SyntheticTables.Proofs.Table.Decision
import SyntheticTables.Proofs.Table.Document
import SyntheticTables.Proofs.Table.RoundTrip
import SyntheticTables.Proofs.Table.Validity
import SyntheticTables.Proofs.Text.Integer
import SyntheticTables.Proofs.Text.Joined
import SyntheticTables.Proofs.TypeDesc.Preorder
import SyntheticTables.Proofs.TypeDesc.Text
import SyntheticTables.Proofs.TypeDesc.Union
import SyntheticTables.Proofs.Value.Contents
import SyntheticTables.Proofs.Value.Key
import SyntheticTables.Proofs.Value.SlotCheck
import SyntheticTables.Proofs.Value.Typing
import SyntheticTables.Proofs.Vocabulary
import SyntheticTables.Proofs.Vocabulary.Lookups
import SyntheticTables.Random.Sample
import SyntheticTables.Random.Stream
import SyntheticTables.Reading
import SyntheticTables.Record
import SyntheticTables.Schema
import SyntheticTables.Settings
import SyntheticTables.Table.Document
import SyntheticTables.Table.FieldType
import SyntheticTables.Table.Package
import SyntheticTables.Table.Row
import SyntheticTables.Table.Schema
import SyntheticTables.Table.Validity
import SyntheticTables.Text.Blank
import SyntheticTables.Text.Case
import SyntheticTables.Text.CaseTable
import SyntheticTables.Text.HiddenTable
import SyntheticTables.Text.Integer
import SyntheticTables.Text.Joiner
import SyntheticTables.Text.Letter
import SyntheticTables.Text.LetterTable
import SyntheticTables.Text.Quoted
import SyntheticTables.Text.Ranges
import SyntheticTables.Toml.Document
import SyntheticTables.Toml.Scalar
import SyntheticTables.Value
import SyntheticTables.Vocabulary.Bundled
import SyntheticTables.Vocabulary.Locale
import SyntheticTables.Vocabulary.Source
import SyntheticTables.Yaml.Document
import SyntheticTables.Yaml.Error
import SyntheticTables.Yaml.Glyph
import SyntheticTables.Yaml.Node
import SyntheticTables.Yaml.Scalar
import SyntheticTables.Yaml.ScalarText
import SyntheticTables.Yaml.Tag
import SyntheticTables.Yaml.Token
