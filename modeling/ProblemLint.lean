import ProblemLint.Changelog.Edit
import ProblemLint.Changelog.Message
import ProblemLint.Changelog.Repository
import ProblemLint.Check
import ProblemLint.Check.Blank
import ProblemLint.Check.Emphasis
import ProblemLint.Check.Hazard
import ProblemLint.Check.Header
import ProblemLint.Check.Html
import ProblemLint.Check.HtmlVariable
import ProblemLint.Check.Include
import ProblemLint.Check.Inline
import ProblemLint.Check.Legacy
import ProblemLint.Check.Line
import ProblemLint.Check.LoadMacros
import ProblemLint.Check.Macros
import ProblemLint.Check.Modes
import ProblemLint.Check.Seed
import ProblemLint.Check.Signature
import ProblemLint.Check.Standard
import ProblemLint.Check.Structure
import ProblemLint.Check.Wrapper
import ProblemLint.CommandLine
import ProblemLint.CommandLine.Help
import ProblemLint.Document
import ProblemLint.Document.Description
import ProblemLint.File.Tree
import ProblemLint.Host
import ProblemLint.Issue
import ProblemLint.Lint
import ProblemLint.LintCommand
import ProblemLint.Main
import ProblemLint.Markup.Blank
import ProblemLint.Markup.Bracket
import ProblemLint.Markup.Inline
import ProblemLint.Markup.Math
import ProblemLint.Markup.Region
import ProblemLint.Pattern.Basic
import ProblemLint.Pattern.Class
import ProblemLint.Pattern.Matcher
import ProblemLint.Pattern.Reader
import ProblemLint.Pattern.Template
import ProblemLint.Pattern.Written
import ProblemLint.Registry
import ProblemLint.Release.Index
import ProblemLint.Release.Project
import ProblemLint.Release.Size
import ProblemLint.Release.Step
import ProblemLint.Renderer.Case
import ProblemLint.Renderer.Compare
import ProblemLint.Renderer.Explore
import ProblemLint.Renderer.Session
import ProblemLint.Rule
import ProblemLint.Sample.Problem
import ProblemLint.Sample.Workload
import ProblemLint.Source.Block
import ProblemLint.Source.Call
import ProblemLint.Source.Comment
import ProblemLint.Source.Literal
import ProblemLint.Source.Macro
import ProblemLint.Source.Modes
import ProblemLint.Source.Quote
import ProblemLint.Source.Scan
import ProblemLint.Source.Variable
import ProblemLint.Text.Basic
import ProblemLint.Text.Blank
import ProblemLint.Text.Case
import ProblemLint.Text.CharName
import ProblemLint.Text.CodeSet
import ProblemLint.Text.Digit
import ProblemLint.Text.Identifier
import ProblemLint.Text.Letter
import ProblemLint.Text.Lines
import ProblemLint.Text.Position
import ProblemLint.Text.Printable
import ProblemLint.Text.Quoted
import ProblemLint.Text.ShellWords
import ProblemLint.Text.Utf8
import ProblemLint.Toml
import ProblemLint.Triage.Analysis
import ProblemLint.Triage.ByCheck
import ProblemLint.Triage.Cautious
import ProblemLint.Triage.Entry
import ProblemLint.Triage.Evidence
import ProblemLint.Triage.FirstPass
import ProblemLint.Triage.Results
import ProblemLint.Triage.Sweep
import ProblemLint.Value.Basic
import ProblemLint.Value.Decimal
import ProblemLint.Value.Reader
import ProblemLint.Value.Show
import ProblemLint.Value.Writer
import ProblemLint.Version
import ProblemLint.Proofs.Lines
import ProblemLint.Proofs.Stripping
import ProblemLint.Proofs.Heredoc
import ProblemLint.Proofs.Blocks
import ProblemLint.Proofs.CommentText
import ProblemLint.Proofs.Newlines
import ProblemLint.Proofs.TokenLines
import ProblemLint.Proofs.Frame
import ProblemLint.Proofs.SoundIssues
import ProblemLint.Proofs.StableSort
import ProblemLint.Proofs.Selection
import ProblemLint.Proofs.Pairing
import ProblemLint.Proofs.BlockMarkers
import ProblemLint.Proofs.Laminar
import ProblemLint.Proofs.ClosedBlock
import ProblemLint.Proofs.InlineNotes
import ProblemLint.Proofs.Rerun
import ProblemLint.Proofs.InlineExemption
import ProblemLint.Proofs.Matching
import ProblemLint.Proofs.WellFormed
import ProblemLint.Proofs.LoweredDocument
import ProblemLint.Proofs.LoweredChecks
import ProblemLint.Proofs.Translation
import ProblemLint.Proofs.RegionLines
import ProblemLint.Proofs.Registration
import ProblemLint.Proofs.Encoding
import ProblemLint.Proofs.LineTexts
import ProblemLint.Proofs.FileTrees
import ProblemLint.Proofs.Scripts
import ProblemLint.Proofs.CommitMessage
import ProblemLint.Proofs.Quotes
import ProblemLint.Proofs.PlainCode
import ProblemLint.Proofs.MacroScan
import ProblemLint.Proofs.MacroCall
import ProblemLint.Proofs.Occurrences
import ProblemLint.Proofs.Brackets
import ProblemLint.Proofs.InlinePairs
import ProblemLint.Proofs.BlankNotes
import ProblemLint.Proofs.Depth
import ProblemLint.Proofs.Names
import ProblemLint.Proofs.OutermostCalls
import ProblemLint.Proofs.MovedScans
import ProblemLint.Proofs.ClosedHeredoc
import ProblemLint.Proofs.Delimiters
import ProblemLint.Proofs.AnsweredBlanks
import ProblemLint.Proofs.SquareBrackets
import ProblemLint.Proofs.MathSpans
import ProblemLint.Proofs.Assignments
import ProblemLint.Proofs.ListAssignments
import ProblemLint.Proofs.Literals
import ProblemLint.Proofs.InlineBraces
import ProblemLint.Proofs.ArgumentLists
import ProblemLint.Proofs.TagWrappers
import ProblemLint.Proofs.Recognisers
import ProblemLint.Proofs.AnswerCalls
import ProblemLint.Proofs.CollectedIssues
import ProblemLint.Proofs.StyleQuotes
import ProblemLint.Proofs.Excerpts
import ProblemLint.Proofs.ModeArguments
import ProblemLint.Proofs.RendererMessages
import ProblemLint.Proofs.Verdicts
import ProblemLint.Proofs.WrittenVersions
import ProblemLint.Proofs.KeywordLists
import ProblemLint.Proofs.LineStarts
import ProblemLint.Proofs.MaskedComments
import ProblemLint.Proofs.ResultEntries
import ProblemLint.Proofs.VersionAssignments
import ProblemLint.Proofs.VersionFiles
