import SuppressionAudit.Allowlist
import SuppressionAudit.Candidate
import SuppressionAudit.Check
import SuppressionAudit.Command.Arguments
import SuppressionAudit.Command.RecordedDisk
import SuppressionAudit.Command.Recording
import SuppressionAudit.Command.Run
import SuppressionAudit.Config
import SuppressionAudit.Console.Highlight
import SuppressionAudit.Console.Layout
import SuppressionAudit.Console.Line
import SuppressionAudit.Console.StyledText
import SuppressionAudit.Directive.Block
import SuppressionAudit.Directive.Extraction
import SuppressionAudit.Directive.LineComment
import SuppressionAudit.Directive.Marker
import SuppressionAudit.Directive.Position
import SuppressionAudit.Directive.Qualified
import SuppressionAudit.Directive.RuleList
import SuppressionAudit.Directive.Suppression
import SuppressionAudit.Discovery
import SuppressionAudit.Evaluation
import SuppressionAudit.FieldProblem
import SuppressionAudit.Finding
import SuppressionAudit.Glob.Cover
import SuppressionAudit.Glob.Pattern
import SuppressionAudit.Glob.Segment
import SuppressionAudit.Json
import SuppressionAudit.Json.Reader
import SuppressionAudit.Json.Writer
import SuppressionAudit.Linter.Answer
import SuppressionAudit.Linter.Batching
import SuppressionAudit.Linter.ConfigMode
import SuppressionAudit.Linter.Failure
import SuppressionAudit.Linter.Interface
import SuppressionAudit.Linter.Process
import SuppressionAudit.Main
import SuppressionAudit.Notice
import SuppressionAudit.Path
import SuppressionAudit.Proofs.Directive.BlockComments
import SuppressionAudit.Proofs.Directive.CommentForms
import SuppressionAudit.Proofs.Directive.Extraction
import SuppressionAudit.Proofs.Directive.LineForms
import SuppressionAudit.Proofs.Directive.Markers
import SuppressionAudit.Proofs.Directive.Places
import SuppressionAudit.Proofs.Directive.RuleLists
import SuppressionAudit.Proofs.Glob.Covers
import SuppressionAudit.Proofs.Glob.Pruning
import SuppressionAudit.Proofs.Linter.Books
import SuppressionAudit.Proofs.Sorting
import SuppressionAudit.Proofs.Text.Cuts
import SuppressionAudit.Proofs.Walk
import SuppressionAudit.Report
import SuppressionAudit.Report.ActionParameter
import SuppressionAudit.Report.ColorName
import SuppressionAudit.Report.Literal
import SuppressionAudit.Report.Literal.Escape
import SuppressionAudit.Report.Literal.Expression
import SuppressionAudit.Report.Literal.Fault
import SuppressionAudit.Report.Literal.Field
import SuppressionAudit.Report.Literal.Grammar
import SuppressionAudit.Report.Literal.Numeral
import SuppressionAudit.Report.Literal.Outcomes
import SuppressionAudit.Report.Literal.Reading
import SuppressionAudit.Report.Literal.Rules
import SuppressionAudit.Report.Literal.Token
import SuppressionAudit.Report.Markup
import SuppressionAudit.Report.Panel
import SuppressionAudit.Report.StyleName
import SuppressionAudit.Report.Table
import SuppressionAudit.Scan
import SuppressionAudit.ScanError
import SuppressionAudit.Severity
import SuppressionAudit.StableSort
import SuppressionAudit.Text
import SuppressionAudit.Text.Blank
import SuppressionAudit.Text.CaseTable
import SuppressionAudit.Text.CellTable
import SuppressionAudit.Text.CellWidth
import SuppressionAudit.Text.CharacterName
import SuppressionAudit.Text.CharacterNameTable
import SuppressionAudit.Text.Cluster
import SuppressionAudit.Text.Digit
import SuppressionAudit.Text.EmojiCode
import SuppressionAudit.Text.EmojiTable
import SuppressionAudit.Text.Letter
import SuppressionAudit.Text.LetterTable
import SuppressionAudit.Text.LineBreak
import SuppressionAudit.Text.Lowercase
import SuppressionAudit.Text.Printable
import SuppressionAudit.Text.Quoted
import SuppressionAudit.Text.Shape
import SuppressionAudit.Text.Utf8
import SuppressionAudit.Text.Wrap
import SuppressionAudit.Tree.Disk
import SuppressionAudit.Tree.Fault
import SuppressionAudit.Tree.Node
import SuppressionAudit.Tree.Project
import SuppressionAudit.Verdict
import SuppressionAudit.Proofs.Gathering
import SuppressionAudit.Proofs.Directive.ExactPositions
import SuppressionAudit.Proofs.Linter.Answers
import SuppressionAudit.Proofs.Linter.Groups
import SuppressionAudit.Proofs.Scan.Sequential
import SuppressionAudit.Proofs.Discovery.Trees
import SuppressionAudit.Proofs.Discovery.AlongPaths
import SuppressionAudit.Proofs.Discovery.Found
import SuppressionAudit.Proofs.Glob.Groups
import SuppressionAudit.Proofs.Linter.Failures
import SuppressionAudit.Proofs.Text.Calm
import SuppressionAudit.Proofs.Console.Layout
import SuppressionAudit.Proofs.Report.Tags
import SuppressionAudit.Proofs.Report.Paths
import SuppressionAudit.Proofs.Report.Tables
import SuppressionAudit.Proofs.Report.Completeness
import SuppressionAudit.Proofs.Command.ExitCode
import SuppressionAudit.Proofs.Text.Trims
import SuppressionAudit.Proofs.Directive.RenderedLists
import SuppressionAudit.Proofs.Directive.WrittenLineComments
import SuppressionAudit.Proofs.Directive.Seams
import SuppressionAudit.Proofs.Linter.Snapshots
import SuppressionAudit.Proofs.Linter.Turns
import SuppressionAudit.Proofs.Linter.OneBatch
import SuppressionAudit.Proofs.Discovery.Disks
import SuppressionAudit.Proofs.Scan.Lookups
import SuppressionAudit.Proofs.Scan.OneProcess
import SuppressionAudit.Proofs.Directive.ParsedLists
import SuppressionAudit.Proofs.Linter.AcceptedAnswers
import SuppressionAudit.Proofs.Scan.Outcomes
import SuppressionAudit.Proofs.Scan.NecessaryFailures
import SuppressionAudit.Proofs.Scan.LargerAllowlists
import SuppressionAudit.Proofs.Text.Returns
import SuppressionAudit.Proofs.Directive.LineEndings
import SuppressionAudit.Proofs.Directive.OpenComments
import SuppressionAudit.Proofs.Directive.Overlaps
import SuppressionAudit.Proofs.Scan.CountedOnce
import SuppressionAudit.Proofs.Report.Groups
import SuppressionAudit.Proofs.Scan.ReportOrder
import SuppressionAudit.Proofs.Scan.RuleQuestions
import SuppressionAudit.Proofs.Scan.DamagedFiles
import SuppressionAudit.Proofs.Text.DamagedBytes
import SuppressionAudit.Proofs.Glob.Literals
import SuppressionAudit.Proofs.Glob.Subtrees
import SuppressionAudit.Proofs.Discovery.Defaults
import SuppressionAudit.Proofs.Discovery.Refusals
import SuppressionAudit.Proofs.Text.StrictUtf8
import SuppressionAudit.Proofs.Json.Fields
import SuppressionAudit.Proofs.Json.Grammar
import SuppressionAudit.Proofs.Json.Tokens
import SuppressionAudit.Proofs.Json.Readings
import SuppressionAudit.Proofs.Json.Nesting
import SuppressionAudit.Proofs.Json.Writings
import SuppressionAudit.Proofs.Allowlist.Records
import SuppressionAudit.Proofs.Allowlist.Loading
import SuppressionAudit.Proofs.Allowlist.Written
import SuppressionAudit.Proofs.Directive.Reasons
import SuppressionAudit.Proofs.Scan.ReportableSuppressions
