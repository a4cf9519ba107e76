import OpsLint.Assoc
import OpsLint.CommandLine.Answer
import OpsLint.CommandLine.Arguments
import OpsLint.CommandLine.Command
import OpsLint.Crontab.Basic
import OpsLint.Crontab.Field
import OpsLint.Crontab.Rules
import OpsLint.Decimal.Binary
import OpsLint.Decimal.Layout
import OpsLint.Decimal.Read
import OpsLint.Decimal.Shortest
import OpsLint.Detect
import OpsLint.Diagnostic
import OpsLint.Dockerfile.Basic
import OpsLint.Dockerfile.Heredoc
import OpsLint.Dockerfile.Rules
import OpsLint.Env.Basic
import OpsLint.Env.Rules
import OpsLint.Env.Value
import OpsLint.FileKind
import OpsLint.Files.Archive
import OpsLint.Files.Discover
import OpsLint.Files.Load
import OpsLint.Files.Path
import OpsLint.Files.Tree
import OpsLint.JsonValue
import OpsLint.Lint
import OpsLint.Main
import OpsLint.Makefile.Basic
import OpsLint.Makefile.Line
import OpsLint.Makefile.Output
import OpsLint.Makefile.Reference
import OpsLint.Makefile.Rules
import OpsLint.Model
import OpsLint.Pool
import OpsLint.Proofs.Aggregation
import OpsLint.Proofs.BrokenCommands
import OpsLint.Proofs.Characters
import OpsLint.Proofs.ClosingQuotes
import OpsLint.Proofs.Collection
import OpsLint.Proofs.Courses
import OpsLint.Proofs.CrontabDetection
import OpsLint.Proofs.CrontabLines
import OpsLint.Proofs.CrontabSafety
import OpsLint.Proofs.DiscoveredFiles
import OpsLint.Proofs.Discovery
import OpsLint.Proofs.DockerfileComments
import OpsLint.Proofs.DockerfileFailure
import OpsLint.Proofs.DockerfileHeredocs
import OpsLint.Proofs.DockerfileSpans
import OpsLint.Proofs.DockerfileStep
import OpsLint.Proofs.Drafts
import OpsLint.Proofs.Duplicates
import OpsLint.Proofs.Entries
import OpsLint.Proofs.EnvComments
import OpsLint.Proofs.EnvLines
import OpsLint.Proofs.EnvRoundTrip
import OpsLint.Proofs.EnvValues
import OpsLint.Proofs.FieldAnswers
import OpsLint.Proofs.FieldGrammar
import OpsLint.Proofs.FieldRecognition
import OpsLint.Proofs.FileTree
import OpsLint.Proofs.Grading
import OpsLint.Proofs.InMemory
import OpsLint.Proofs.Isolation
import OpsLint.Proofs.LastGiven
import OpsLint.Proofs.LineNumbers
import OpsLint.Proofs.Lines
import OpsLint.Proofs.MakefileComments
import OpsLint.Proofs.MakefileLayout
import OpsLint.Proofs.MakefileRuleLines
import OpsLint.Proofs.MakefileSeams
import OpsLint.Proofs.MakefileStep
import OpsLint.Proofs.NormalPaths
import OpsLint.Proofs.Numerals
import OpsLint.Proofs.Outcomes
import OpsLint.Proofs.Overrides
import OpsLint.Proofs.Path
import OpsLint.Proofs.PhonyAdvice
import OpsLint.Proofs.Precedence
import OpsLint.Proofs.Reading
import OpsLint.Proofs.ReferenceOccurrences
import OpsLint.Proofs.ReferencePlaces
import OpsLint.Proofs.References
import OpsLint.Proofs.Registration
import OpsLint.Proofs.ReportedLines
import OpsLint.Proofs.RuleBlocks
import OpsLint.Proofs.Schedule
import OpsLint.Proofs.SecretPolicy
import OpsLint.Proofs.StableSort
import OpsLint.Proofs.SystemdLayout
import OpsLint.Proofs.SystemdSeams
import OpsLint.Proofs.SystemdStep
import OpsLint.Proofs.UnknownKeys
import OpsLint.Proofs.UnpinnedImages
import OpsLint.Proofs.Utf8
import OpsLint.Proofs.Validation
import OpsLint.Proofs.Words
import OpsLint.Reading
import OpsLint.Repeats
import OpsLint.Report
import OpsLint.Rule.Basic
import OpsLint.Rule.Registry
import OpsLint.Run
import OpsLint.Settings.Basic
import OpsLint.Settings.Calendar
import OpsLint.Settings.Draft
import OpsLint.Settings.File
import OpsLint.Settings.Resolve
import OpsLint.Settings.Validate
import OpsLint.Settings.Value
import OpsLint.Severity
import OpsLint.Systemd.Basic
import OpsLint.Systemd.Rules
import OpsLint.Terminal
import OpsLint.Text.Basic
import OpsLint.Text.Case
import OpsLint.Text.Digit
import OpsLint.Text.Glob
import OpsLint.Text.Identifier
import OpsLint.Text.Lines
import OpsLint.Text.Numeral
import OpsLint.Text.Printable
import OpsLint.Text.Quoted
import OpsLint.Text.Ranges
import OpsLint.Text.Utf8
import OpsLint.Text.Word
import OpsLint.Yaml.Cursor
import OpsLint.Yaml.Node
import OpsLint.Yaml.Scalar
import OpsLint.Yaml.Schema
import OpsLint.Yaml.Timestamp
import OpsLint.Yaml.Token
