import HomeCatalog.Catalog.Consistency
import HomeCatalog.Catalog.Fault
import HomeCatalog.Catalog.OfRecords
import HomeCatalog.Catalog.Parts
import HomeCatalog.Command.Arguments
import HomeCatalog.Command.Help
import HomeCatalog.Command.Program
import HomeCatalog.Command.Run
import HomeCatalog.Database.Document
import HomeCatalog.Database.Fault
import HomeCatalog.Database.Load
import HomeCatalog.Database.Properties
import HomeCatalog.Database.Records
import HomeCatalog.Decimal.Basic
import HomeCatalog.Decimal.Literal
import HomeCatalog.Decimal.Notation
import HomeCatalog.Disk.Basic
import HomeCatalog.Disk.Path
import HomeCatalog.Disk.Task
import HomeCatalog.Disk.TextFile
import HomeCatalog.Entity.Basic
import HomeCatalog.Export
import HomeCatalog.Json.Basic
import HomeCatalog.Json.Reader
import HomeCatalog.Json.Writer
import HomeCatalog.Layout.Options
import HomeCatalog.Layout.Streams
import HomeCatalog.Layout.Text
import HomeCatalog.Library
import HomeCatalog.Library.Own
import HomeCatalog.Main
import HomeCatalog.Pattern.Basic
import HomeCatalog.Pattern.NameFilter
import HomeCatalog.Pattern.Reader
import HomeCatalog.Pattern.Search
import HomeCatalog.Record
import HomeCatalog.Settings
import HomeCatalog.Text.Blank
import HomeCatalog.Text.Casing
import HomeCatalog.Text.Casing.Table
import HomeCatalog.Text.CodePage
import HomeCatalog.Text.Digit
import HomeCatalog.Text.Given
import HomeCatalog.Text.Letters
import HomeCatalog.Text.Lines
import HomeCatalog.Text.Name
import HomeCatalog.Text.Printable
import HomeCatalog.Text.Ranges
import HomeCatalog.Text.Shown
import HomeCatalog.Text.Split
import HomeCatalog.Text.Utf8
import HomeCatalog.Text.Word
import HomeCatalog.Value.Basic
import HomeCatalog.Value.Kind
import HomeCatalog.Yaml.Basic
import HomeCatalog.Yaml.Document.Cursor
import HomeCatalog.Yaml.Document.Date
import HomeCatalog.Yaml.Document.Node
import HomeCatalog.Yaml.Document.Number
import HomeCatalog.Yaml.Document.Scalar
import HomeCatalog.Yaml.Document.Tag
import HomeCatalog.Yaml.Document.Token
import HomeCatalog.Yaml.Document.TokenStream
import HomeCatalog.Yaml.Document.Value
import HomeCatalog.Proofs.Catalog.Ids
import HomeCatalog.Proofs.Catalog.Nesting
import HomeCatalog.Proofs.Catalog.Values
import HomeCatalog.Proofs.Catalog.Attachment
import HomeCatalog.Proofs.Decimal.Digits
import HomeCatalog.Proofs.Decimal.Numeral
import HomeCatalog.Proofs.Decimal.Scientific
import HomeCatalog.Proofs.Json.Held
import HomeCatalog.Proofs.Database.Configuration
import HomeCatalog.Proofs.Catalog.Refusal
import HomeCatalog.Proofs.Layout.Headers
import HomeCatalog.Proofs.Catalog.WrittenIds
import HomeCatalog.Proofs.Layout.Ink
import HomeCatalog.Proofs.Disk.Course
import HomeCatalog.Proofs.Export.Outcome
import HomeCatalog.Proofs.Catalog.Narrowing
import HomeCatalog.Proofs.Layout.Order
import HomeCatalog.Proofs.Catalog.Identity
import HomeCatalog.Proofs.Command.Spelling
import HomeCatalog.Proofs.Command.Arguments
import HomeCatalog.Proofs.Command.Session
import HomeCatalog.Proofs.Export.Success
import HomeCatalog.Proofs.Command.Conversion
import HomeCatalog.Proofs.Export.ReadBack
import HomeCatalog.Proofs.Text.OneLine
import HomeCatalog.Proofs.Text.Blocks
import HomeCatalog.Proofs.Layout.Blocks
import HomeCatalog.Proofs.Database.Respelling
import HomeCatalog.Proofs.Catalog.Walks
import HomeCatalog.Proofs.Catalog.Selection
import HomeCatalog.Proofs.Catalog.DanglingLinks
import HomeCatalog.Proofs.Decimal.Spelling
import HomeCatalog.Proofs.Value.NormalForm
import HomeCatalog.Proofs.Json.Number
import HomeCatalog.Proofs.Json.Spelling
import HomeCatalog.Proofs.Database.Literals
import HomeCatalog.Proofs.Text.LetterCase
import HomeCatalog.Proofs.Value.Inferred
import HomeCatalog.Proofs.Text.CodePage
import HomeCatalog.Proofs.Value.Number
import HomeCatalog.Proofs.Layout.Frame
import HomeCatalog.Proofs.Layout.Quoted
import HomeCatalog.Proofs.Layout.Properties
import HomeCatalog.Proofs.Layout.Entries
import HomeCatalog.Proofs.Catalog.Warnings
import HomeCatalog.Proofs.Layout.DefaultEndpoints
import HomeCatalog.Proofs.Database.Definition
import HomeCatalog.Proofs.Json.RoundTrip
import HomeCatalog.Proofs.Database.NestedObjects
import HomeCatalog.Proofs.Yaml.Keys
import HomeCatalog.Proofs.Yaml.Document
import HomeCatalog.Proofs.Settings.Fields
import HomeCatalog.Proofs.Settings.Mapping
import HomeCatalog.Proofs.Settings.KeyOrder
import HomeCatalog.Proofs.Settings.Unreported
import HomeCatalog.Proofs.Json.Overflow
import HomeCatalog.Proofs.Database.Unreported
import HomeCatalog.Proofs.Layout.Encoding
import HomeCatalog.Proofs.Layout.Places
