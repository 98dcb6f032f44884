import ProseCheck.Command.Invocation
import ProseCheck.Command.Option
import ProseCheck.Command.Run
import ProseCheck.Config.Arguments
import ProseCheck.Config.Basic
import ProseCheck.Config.Fault
import ProseCheck.Config.Field
import ProseCheck.Config.Load
import ProseCheck.Decimal.Binary64
import ProseCheck.Decimal.Shortest
import ProseCheck.Diagnostic
import ProseCheck.Document.Basic
import ProseCheck.Document.Source
import ProseCheck.Document.Walk
import ProseCheck.FileSystem.Basic
import ProseCheck.FileSystem.Path
import ProseCheck.Json.Reader
import ProseCheck.Json.Value
import ProseCheck.Json.Writer
import ProseCheck.Linter
import ProseCheck.Main
import ProseCheck.Markdown.Block
import ProseCheck.Markdown.Delimiter
import ProseCheck.Markdown.Element
import ProseCheck.Markdown.Entity
import ProseCheck.Markdown.EntityTable
import ProseCheck.Markdown.Html
import ProseCheck.Markdown.Inline
import ProseCheck.Markdown.Line
import ProseCheck.Markdown.Link
import ProseCheck.Markdown.Marker
import ProseCheck.Markdown.Parse
import ProseCheck.Markdown.Punycode
import ProseCheck.Markdown.Url
import ProseCheck.Report.Line
import ProseCheck.Report.Render
import ProseCheck.Rule.Basic
import ProseCheck.Rule.Check
import ProseCheck.Rule.Registry
import ProseCheck.Text.Blank
import ProseCheck.Text.Case
import ProseCheck.Text.CaseContext
import ProseCheck.Text.CaseTable
import ProseCheck.Text.DecimalDigit
import ProseCheck.Text.DigitLimit
import ProseCheck.Text.Encoding
import ProseCheck.Text.Fields
import ProseCheck.Text.Integer
import ProseCheck.Text.Pattern
import ProseCheck.Text.Point
import ProseCheck.Text.Printable
import ProseCheck.Text.Punctuation
import ProseCheck.Text.Quoted
import ProseCheck.Text.Ranges
import ProseCheck.Text.Sentence
import ProseCheck.Text.Substring
import ProseCheck.Text.Utf8
import ProseCheck.Proofs.CodePoints
import ProseCheck.Proofs.Segmentation
import ProseCheck.Proofs.Violation
import ProseCheck.Proofs.Entry
import ProseCheck.Proofs.Validation
import ProseCheck.Proofs.Linting
import ProseCheck.Proofs.CanonicalForm
import ProseCheck.Proofs.LineGrammar
import ProseCheck.Proofs.LineRoundTrip
import ProseCheck.Proofs.TextReport
import ProseCheck.Proofs.JsonRoundTrip
import ProseCheck.Proofs.JsonReport
import ProseCheck.Proofs.EncodableReport
import ProseCheck.Proofs.Strictness
import ProseCheck.Proofs.NeutralEdit
import ProseCheck.Proofs.Reordering
import ProseCheck.Proofs.FileWrite
import ProseCheck.Proofs.UnknownEntry
import ProseCheck.Proofs.LintRun
import ProseCheck.Proofs.RunOutcome
import ProseCheck.Proofs.SeveralFiles
import ProseCheck.Proofs.Machine
import ProseCheck.Proofs.WorkerPool
import ProseCheck.Proofs.ElementDocument
import ProseCheck.Proofs.ParallelLint
import ProseCheck.Proofs.BlockPlaces
import ProseCheck.Proofs.InlinePlaces
import ProseCheck.Proofs.Positions
import ProseCheck.Proofs.Utf8
import ProseCheck.Proofs.FileText
import ProseCheck.Proofs.LineCut
import ProseCheck.Proofs.RuleKey
import ProseCheck.Proofs.JsonReading
import ProseCheck.Proofs.ConfigLoad
import ProseCheck.Proofs.SentenceForm
import ProseCheck.Proofs.WordBounds
import ProseCheck.Proofs.LetterCase
import ProseCheck.Proofs.FinalSigma
import ProseCheck.Proofs.SentenceCase
import ProseCheck.Proofs.SentenceWords
import ProseCheck.Proofs.WrittenConfig
import ProseCheck.Proofs.DocumentOrder
import ProseCheck.Proofs.EncodedText
import ProseCheck.Proofs.RepeatedRule
