import SchemaMill.Calendar.Date
import SchemaMill.Calendar.Iso
import SchemaMill.Calendar.Layout
import SchemaMill.Calendar.Moment
import SchemaMill.Charset.Bytes
import SchemaMill.Charset.CodePage
import SchemaMill.Charset.Codecs
import SchemaMill.Charset.Domain.Directions
import SchemaMill.Charset.Domain.FoldedRows
import SchemaMill.Charset.Domain.Marks
import SchemaMill.Charset.Domain.Name
import SchemaMill.Charset.Domain.Preparation
import SchemaMill.Charset.Encoding
import SchemaMill.Charset.Escaped
import SchemaMill.Charset.Hz
import SchemaMill.Charset.Iso2022
import SchemaMill.Charset.Multibyte
import SchemaMill.Charset.Names
import SchemaMill.Charset.Page.Dos
import SchemaMill.Charset.Page.Ebcdic
import SchemaMill.Charset.Page.Iso
import SchemaMill.Charset.Page.Mac
import SchemaMill.Charset.Page.National
import SchemaMill.Charset.Page.Windows
import SchemaMill.Charset.Punycode
import SchemaMill.Charset.Transcode
import SchemaMill.Charset.Utf7
import SchemaMill.Charset.Utf8
import SchemaMill.Charset.Wide
import SchemaMill.Cli.Arguments
import SchemaMill.Cli.Arrivals
import SchemaMill.Cli.Command
import SchemaMill.Cli.Convert
import SchemaMill.Cli.Infer
import SchemaMill.Cli.Run
import SchemaMill.Cli.Table
import SchemaMill.Conversion.Document
import SchemaMill.Conversion.Format
import SchemaMill.Conversion.Input
import SchemaMill.Conversion.Options
import SchemaMill.Csv.Reader
import SchemaMill.Csv.Writer
import SchemaMill.Decimal.Arithmetic
import SchemaMill.Decimal.Double
import SchemaMill.Decimal.Number
import SchemaMill.Decimal.Shortest
import SchemaMill.Decimal.Spelling
import SchemaMill.File.Folder
import SchemaMill.File.Path
import SchemaMill.Json.Printer
import SchemaMill.Json.Reader
import SchemaMill.Json.Records
import SchemaMill.Main
import SchemaMill.Markup.Basic
import SchemaMill.Markup.Color
import SchemaMill.Markup.Literal
import SchemaMill.Markup.Picture
import SchemaMill.Markup.PictureNames
import SchemaMill.Markup.Style
import SchemaMill.Notice
import SchemaMill.Profile.Basic
import SchemaMill.Profile.ColumnType
import SchemaMill.Proofs.Lexing.Keywords
import SchemaMill.Proofs.Lexing.Layout
import SchemaMill.Proofs.Lexing.Numbers
import SchemaMill.Proofs.Lexing.Phrases
import SchemaMill.Proofs.Lexing.Quotes
import SchemaMill.Proofs.Lexing.Rules
import SchemaMill.Proofs.Lexing.Running
import SchemaMill.Proofs.Lexing.Signs
import SchemaMill.Proofs.Lexing.Taking
import SchemaMill.Proofs.Lexing.Words
import SchemaMill.Proofs.Order.Arrangement
import SchemaMill.Proofs.Order.Dangling
import SchemaMill.Proofs.Order.Merge
import SchemaMill.Proofs.Order.Visit
import SchemaMill.Proofs.Reading.Clauses
import SchemaMill.Proofs.Reading.Elements
import SchemaMill.Proofs.Reading.Mapping
import SchemaMill.Proofs.Reading.Naming
import SchemaMill.Proofs.Reading.Placement
import SchemaMill.Proofs.Reading.RoundTrip
import SchemaMill.Proofs.Reading.Tables
import SchemaMill.Proofs.Rows.Creation
import SchemaMill.Proofs.Rows.Widths
import SchemaMill.Proofs.Rows.Insertion
import SchemaMill.Proofs.Watch.Journal
import SchemaMill.Proofs.Watch.Settling
import SchemaMill.Proofs.Watch.Window
import SchemaMill.Value.Basic
import SchemaMill.Schema.Document
import SchemaMill.Schema.Dump
import SchemaMill.Schema.Order
import SchemaMill.Schema.Registry
import SchemaMill.Schema.Script
import SchemaMill.Schema.Statement
import SchemaMill.Schema.Target
import SchemaMill.Sql.Creation
import SchemaMill.Sql.Dialect
import SchemaMill.Sql.Lexeme
import SchemaMill.Sql.Pattern
import SchemaMill.Sql.Postgres
import SchemaMill.Sql.Printer
import SchemaMill.Sql.Reader
import SchemaMill.Sql.Table
import SchemaMill.Sql.Tidy
import SchemaMill.Sql.Token
import SchemaMill.Text.Basic
import SchemaMill.Text.Blank
import SchemaMill.Text.Numeral
import SchemaMill.Text.Letter
import SchemaMill.Text.NameRows
import SchemaMill.Text.Named
import SchemaMill.Text.Printable
import SchemaMill.Text.Width
import SchemaMill.Text.WidthRanges
import SchemaMill.Text.Word
import SchemaMill.Text.Wrap
import SchemaMill.Value.Evidence
import SchemaMill.Value.Listing
import SchemaMill.Watch.Watcher
import SchemaMill.Watch.World
import SchemaMill.Proofs.Order.Stripping
import SchemaMill.Proofs.Charset.Declared
import SchemaMill.Proofs.Conversion.Commas
import SchemaMill.Proofs.Conversion.Failures
import SchemaMill.Proofs.Lexing.Yielding
import SchemaMill.Proofs.Script.Documents
import SchemaMill.Proofs.Script.Layout
import SchemaMill.Proofs.Script.ReadBack
import SchemaMill.Proofs.Charset.Spelling
import SchemaMill.Proofs.Charset.Transcoding
import SchemaMill.Proofs.Csv.RoundTrip
import SchemaMill.Proofs.Csv.Rereading
import SchemaMill.Proofs.Json.Scalars
import SchemaMill.Proofs.Json.Values
import SchemaMill.Proofs.Json.RoundTrip
import SchemaMill.Proofs.Watch.Session
import SchemaMill.Proofs.Watch.HandOvers
import SchemaMill.Proofs.Watch.Isolation
import SchemaMill.Proofs.File.Keeping
import SchemaMill.Proofs.Conversion.Exports
import SchemaMill.Proofs.Conversion.Publishing
import SchemaMill.Proofs.Calendar.Years
import SchemaMill.Proofs.Calendar.Stamps
import SchemaMill.Proofs.Calendar.Recognition
import SchemaMill.Proofs.Script.Joining
import SchemaMill.Proofs.Script.Cutting
import SchemaMill.Proofs.Profile.Rendering
import SchemaMill.Proofs.Profile.Types
import SchemaMill.Proofs.Order.Redefinition
import SchemaMill.Proofs.Order.Rearranging
import SchemaMill.Proofs.Order.Registration
import SchemaMill.Proofs.Moving.Again
import SchemaMill.Proofs.Moving.Collation
import SchemaMill.Proofs.Nesting.Encodings
import SchemaMill.Proofs.Nesting.Attributes
import SchemaMill.Proofs.Postgres.UniqueKeys
import SchemaMill.Proofs.Decimal.Padded
import SchemaMill.Proofs.Profile.Widening
import SchemaMill.Proofs.Lexing.Gaps
import SchemaMill.Proofs.Reading.References
import SchemaMill.Proofs.Nesting.Balance
import SchemaMill.Proofs.Json.Flattening
import SchemaMill.Proofs.Csv.ColumnNames
import SchemaMill.Proofs.Charset.Detection
import SchemaMill.Proofs.Conversion.Batches
import SchemaMill.Proofs.Watch.Bookkeeping
import SchemaMill.Proofs.Nesting.Splitting
import SchemaMill.Proofs.Reading.Identifiers
import SchemaMill.Proofs.Rows.Retidying
