import RecordRules.Assoc
import RecordRules.Builtin
import RecordRules.Calendar.Date
import RecordRules.Calendar.Format
import RecordRules.Calendar.Iso
import RecordRules.Check.Basic
import RecordRules.Check.Characters
import RecordRules.Check.Checksum
import RecordRules.Check.Consistency
import RecordRules.Check.Dates
import RecordRules.Check.Formats
import RecordRules.Check.Limits
import RecordRules.Check.Membership
import RecordRules.Check.Network
import RecordRules.Check.Numbers
import RecordRules.Check.Presence
import RecordRules.Check.Upload
import RecordRules.Command.Arguments
import RecordRules.Command.Basic
import RecordRules.Command.Run
import RecordRules.Csv.Rows
import RecordRules.Csv.Table
import RecordRules.Declaration
import RecordRules.Display
import RecordRules.Display.Plain
import RecordRules.Engine
import RecordRules.File.Folder
import RecordRules.File.Load
import RecordRules.File.Path
import RecordRules.Frame
import RecordRules.Json.Reader
import RecordRules.Json.Writer
import RecordRules.Main
import RecordRules.Message.Catalog
import RecordRules.Message.English
import RecordRules.Message.Locale
import RecordRules.Message.Spanish
import RecordRules.Message.Template
import RecordRules.Net.Address
import RecordRules.Net.Domain
import RecordRules.Net.Email
import RecordRules.Net.Punycode
import RecordRules.Net.Url
import RecordRules.Number.Binary64
import RecordRules.Number.Decimal
import RecordRules.Number.Integer
import RecordRules.Number.Power
import RecordRules.Parameter
import RecordRules.Pattern.Cursor
import RecordRules.Pattern.Delimited
import RecordRules.Pattern.Escape
import RecordRules.Pattern.Fault
import RecordRules.Pattern.Flags
import RecordRules.Pattern.Matcher
import RecordRules.Pattern.Node
import RecordRules.Pattern.Reader
import RecordRules.Proofs.Builtin.Contract
import RecordRules.Proofs.Builtin.Failures
import RecordRules.Proofs.Builtin.Faults
import RecordRules.Proofs.Builtin.Independence
import RecordRules.Proofs.Builtin.Kinds
import RecordRules.Proofs.Builtin.Order
import RecordRules.Proofs.Builtin.Parameters
import RecordRules.Proofs.Builtin.Written
import RecordRules.Proofs.Calendar.Format
import RecordRules.Proofs.Calendar.Reading
import RecordRules.Proofs.Calendar.Written
import RecordRules.Proofs.Check.Age
import RecordRules.Proofs.Check.Bounds
import RecordRules.Proofs.Check.Characters
import RecordRules.Proofs.Check.Date
import RecordRules.Proofs.Check.Extension
import RecordRules.Proofs.Check.Iban
import RecordRules.Proofs.Check.Integer
import RecordRules.Proofs.Check.Luhn
import RecordRules.Proofs.Check.Membership
import RecordRules.Proofs.Check.Passing
import RecordRules.Proofs.Command.ExitCode
import RecordRules.Proofs.Declaration.Grammar
import RecordRules.Proofs.Declaration.Parse
import RecordRules.Proofs.Declaration.RoundTrip
import RecordRules.Proofs.Declaration.Segments
import RecordRules.Proofs.Display.Failures
import RecordRules.Proofs.Evaluation
import RecordRules.Proofs.Frame
import RecordRules.Proofs.Grouping
import RecordRules.Proofs.Json.Integer
import RecordRules.Proofs.Message.Bundled
import RecordRules.Proofs.Message.Faults
import RecordRules.Proofs.Message.Rendering
import RecordRules.Proofs.Message.Substitution
import RecordRules.Proofs.Message.Template
import RecordRules.Proofs.Number.Literal
import RecordRules.Proofs.Number.Nearest
import RecordRules.Proofs.Number.Order
import RecordRules.Proofs.Number.Spelling
import RecordRules.Proofs.Number.Written
import RecordRules.Proofs.Outcome
import RecordRules.Proofs.Parameter
import RecordRules.Proofs.Pattern.Casing
import RecordRules.Proofs.Pattern.Delimited
import RecordRules.Proofs.Pattern.Taking
import RecordRules.Proofs.Registry.Declared
import RecordRules.Proofs.Registry.History
import RecordRules.Proofs.Report.Accounting
import RecordRules.Proofs.Report.Markdown
import RecordRules.Proofs.Text.Case
import RecordRules.Proofs.Text.Letter
import RecordRules.Proofs.Text.Lines
import RecordRules.Proofs.Text.Shape
import RecordRules.Proofs.Traversal
import RecordRules.Proofs.Value.Shown
import RecordRules.Registries
import RecordRules.Registry
import RecordRules.Report
import RecordRules.Report.Json
import RecordRules.Report.Markdown
import RecordRules.Result
import RecordRules.Ruleset
import RecordRules.Text.Blank
import RecordRules.Text.Case
import RecordRules.Text.CaseTable
import RecordRules.Text.CharacterName
import RecordRules.Text.DecompositionTable
import RecordRules.Text.Direction
import RecordRules.Text.Letter
import RecordRules.Text.Newline
import RecordRules.Text.Normal
import RecordRules.Text.Printable
import RecordRules.Text.Quoted
import RecordRules.Text.Ranges
import RecordRules.Text.Shape
import RecordRules.Text.Split
import RecordRules.Value
import RecordRules.Value.Equality
import RecordRules.Value.Text
import RecordRules.Proofs.Check.Phone
import RecordRules.Proofs.Number.Equality
import RecordRules.Proofs.Value.Equality
import RecordRules.Proofs.Value.WellFormed
import RecordRules.Proofs.Json.WellFormed
import RecordRules.Proofs.Records
import RecordRules.Proofs.Check.Consistency
