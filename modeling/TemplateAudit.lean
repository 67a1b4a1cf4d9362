import TemplateAudit.ArgumentError
import TemplateAudit.Audit.Basic
import TemplateAudit.CommandLine.Options
import TemplateAudit.CommandLine.Run
import TemplateAudit.CommandLine.Usage
import TemplateAudit.Component.Declaration
import TemplateAudit.Component.Load
import TemplateAudit.Console.Action
import TemplateAudit.Console.Action.Escape
import TemplateAudit.Console.Action.Expression
import TemplateAudit.Console.Action.Fault
import TemplateAudit.Console.Action.Field
import TemplateAudit.Console.Action.Grammar
import TemplateAudit.Console.Action.Pattern
import TemplateAudit.Console.Action.Reading
import TemplateAudit.Console.Action.Scan
import TemplateAudit.Console.Action.Token
import TemplateAudit.Console.Color
import TemplateAudit.Console.Control
import TemplateAudit.Console.Emoji
import TemplateAudit.Console.Emoji.FToL
import TemplateAudit.Console.Emoji.MToO
import TemplateAudit.Console.Emoji.PToS
import TemplateAudit.Console.Emoji.TToZ
import TemplateAudit.Console.Emoji.UpToE
import TemplateAudit.Console.Line
import TemplateAudit.Console.StyleName
import TemplateAudit.Console.StyleTag
import TemplateAudit.Diagnostic.Basic
import TemplateAudit.Diagnostic.Scan
import TemplateAudit.Files.Path
import TemplateAudit.Files.Templates
import TemplateAudit.Files.Tree
import TemplateAudit.Json.Read
import TemplateAudit.Json.Value
import TemplateAudit.Json.Write
import TemplateAudit.Log.Conversion
import TemplateAudit.Log.Format
import TemplateAudit.Log.Logger
import TemplateAudit.Log.Record
import TemplateAudit.Main
import TemplateAudit.Markup.Binding
import TemplateAudit.Markup.Scan
import TemplateAudit.Markup.StartTag
import TemplateAudit.Markup.Tag
import TemplateAudit.Message.Basic
import TemplateAudit.Message.Error
import TemplateAudit.Message.Kind
import TemplateAudit.Message.Kind.Collection
import TemplateAudit.Message.Kind.Entry
import TemplateAudit.Message.Kind.General
import TemplateAudit.Message.Kind.Number
import TemplateAudit.Message.Kind.Operation
import TemplateAudit.Message.Kind.Text
import TemplateAudit.Message.Layout
import TemplateAudit.Message.Layout.Basic
import TemplateAudit.Message.Layout.Number
import TemplateAudit.Message.Part
import TemplateAudit.Message.Template
import TemplateAudit.Number.Binary64
import TemplateAudit.Number.Numeral
import TemplateAudit.Number.Shortest
import TemplateAudit.Proofs.Audit.Each
import TemplateAudit.Proofs.Audit.Report
import TemplateAudit.Proofs.Audit.Stop
import TemplateAudit.Proofs.CommandLine.Complaint
import TemplateAudit.Proofs.CommandLine.Failure
import TemplateAudit.Proofs.CommandLine.JsonOutput
import TemplateAudit.Proofs.CommandLine.Offsets
import TemplateAudit.Proofs.CommandLine.Preparation
import TemplateAudit.Proofs.CommandLine.Run
import TemplateAudit.Proofs.CommandLine.SettingsFile
import TemplateAudit.Proofs.Component.Lexing
import TemplateAudit.Proofs.Component.Literals
import TemplateAudit.Proofs.Component.Load
import TemplateAudit.Proofs.Component.Order
import TemplateAudit.Proofs.Component.Overlap
import TemplateAudit.Proofs.Component.Refusal
import TemplateAudit.Proofs.Console.Emoji
import TemplateAudit.Proofs.Console.Line
import TemplateAudit.Proofs.Console.Markup
import TemplateAudit.Proofs.Console.PlainText
import TemplateAudit.Proofs.Console.StyleTag
import TemplateAudit.Proofs.Console.StyledText
import TemplateAudit.Proofs.Console.Tabs
import TemplateAudit.Proofs.Console.Visible
import TemplateAudit.Proofs.Console.Weight
import TemplateAudit.Proofs.Diagnostic.Builtin
import TemplateAudit.Proofs.Diagnostic.Isolation
import TemplateAudit.Proofs.Diagnostic.Match
import TemplateAudit.Proofs.Diagnostic.Scan
import TemplateAudit.Proofs.Diagnostic.Span
import TemplateAudit.Proofs.Files.Content
import TemplateAudit.Proofs.Files.Listing
import TemplateAudit.Proofs.Files.Templates
import TemplateAudit.Proofs.Json.Console
import TemplateAudit.Proofs.Json.Integers
import TemplateAudit.Proofs.Json.Scalar
import TemplateAudit.Proofs.Json.Value
import TemplateAudit.Proofs.Log.Delivery
import TemplateAudit.Proofs.Log.Logger
import TemplateAudit.Proofs.Loops
import TemplateAudit.Proofs.Markup.Binding
import TemplateAudit.Proofs.Markup.Grammar
import TemplateAudit.Proofs.Markup.LastClose
import TemplateAudit.Proofs.Markup.Layout
import TemplateAudit.Proofs.Markup.Machine
import TemplateAudit.Proofs.Markup.Machine.Reading
import TemplateAudit.Proofs.Markup.Machine.Tag
import TemplateAudit.Proofs.Markup.Machine.Walk
import TemplateAudit.Proofs.Markup.Memory
import TemplateAudit.Proofs.Markup.Nesting
import TemplateAudit.Proofs.Markup.Pieces
import TemplateAudit.Proofs.Markup.Reading
import TemplateAudit.Proofs.Markup.Recognition
import TemplateAudit.Proofs.Markup.Search
import TemplateAudit.Proofs.Markup.Search.Bounds
import TemplateAudit.Proofs.Markup.Search.Halting
import TemplateAudit.Proofs.Markup.Search.Soundness
import TemplateAudit.Proofs.Markup.Shift
import TemplateAudit.Proofs.Markup.Walk
import TemplateAudit.Proofs.Message.Placeholder
import TemplateAudit.Proofs.Message.Reference
import TemplateAudit.Proofs.Message.Wording
import TemplateAudit.Proofs.Report.Decode
import TemplateAudit.Proofs.Report.Excerpt
import TemplateAudit.Proofs.Report.Header
import TemplateAudit.Proofs.Report.Kept
import TemplateAudit.Proofs.Report.MatchLine
import TemplateAudit.Proofs.Report.Remark
import TemplateAudit.Proofs.Report.RoundTrip
import TemplateAudit.Proofs.Report.Wording
import TemplateAudit.Proofs.Rule.Bindings
import TemplateAudit.Proofs.Rule.Finder
import TemplateAudit.Proofs.Rule.LetterCase
import TemplateAudit.Proofs.Rule.Selection
import TemplateAudit.Proofs.Rule.Selector
import TemplateAudit.Proofs.Settings.Load
import TemplateAudit.Proofs.Settings.Table
import TemplateAudit.Proofs.Source.LineEnds
import TemplateAudit.Proofs.Source.Lines
import TemplateAudit.Proofs.Source.Position
import TemplateAudit.Proofs.Source.Translation
import TemplateAudit.Proofs.Steps
import TemplateAudit.Proofs.Text.AsciiCase
import TemplateAudit.Proofs.Text.Decimal
import TemplateAudit.Proofs.Text.LowerCase
import TemplateAudit.Proofs.Text.LowerCaseLength
import TemplateAudit.Proofs.Text.LowerCasePrefix
import TemplateAudit.Proofs.Text.Newlines
import TemplateAudit.Proofs.Text.Pieces
import TemplateAudit.Proofs.Text.Run
import TemplateAudit.Report.Basic
import TemplateAudit.Report.Decode
import TemplateAudit.Report.Print
import TemplateAudit.Rule.Basic
import TemplateAudit.Rule.Builtin
import TemplateAudit.Rule.Finder
import TemplateAudit.Rule.Selection
import TemplateAudit.Settings.Basic
import TemplateAudit.Settings.Load
import TemplateAudit.Source.Fragment
import TemplateAudit.Source.Position
import TemplateAudit.Text.Basic
import TemplateAudit.Text.Blank
import TemplateAudit.Text.Case
import TemplateAudit.Text.Case.Context
import TemplateAudit.Text.Case.Lower
import TemplateAudit.Text.Case.Upper
import TemplateAudit.Text.CharacterName
import TemplateAudit.Text.CharacterName.C
import TemplateAudit.Text.CharacterName.DToG
import TemplateAudit.Text.CharacterName.HToK
import TemplateAudit.Text.CharacterName.L
import TemplateAudit.Text.CharacterName.MToN
import TemplateAudit.Text.CharacterName.OToS
import TemplateAudit.Text.CharacterName.TToZ
import TemplateAudit.Text.CharacterName.UpToB
import TemplateAudit.Text.Digit
import TemplateAudit.Text.Identifier
import TemplateAudit.Text.Newlines
import TemplateAudit.Text.Printable
import TemplateAudit.Text.Quoted
import TemplateAudit.Text.Ranges
import TemplateAudit.Text.Search
import TemplateAudit.Text.Utf8
import TemplateAudit.Text.Width
import TemplateAudit.Text.Word
import TemplateAudit.Toml.Document
import TemplateAudit.Toml.Error
import TemplateAudit.Toml.Scalar
import TemplateAudit.Toml.Value
