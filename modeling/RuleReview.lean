import RuleReview.Action
import RuleReview.Export
import RuleReview.Main
import RuleReview.Service
import RuleReview.Proofs.Diff.Header
import RuleReview.Proofs.Issue.Merge
import RuleReview.Proofs.Decimal.Integer
import RuleReview.Proofs.Diff.Numbering
import RuleReview.Proofs.Diff.Written
import RuleReview.Proofs.Diff.Roundtrip
import RuleReview.Proofs.Diff.Places
import RuleReview.Proofs.Data
import RuleReview.Proofs.Text.Words
import RuleReview.Proofs.Review.Marker
import RuleReview.Proofs.Stop
import RuleReview.Proofs.Rule.Source
import RuleReview.Proofs.Review.Session
import RuleReview.Proofs.Review.Groups
import RuleReview.Proofs.Review.Posting
import RuleReview.Proofs.Rule.Match
import RuleReview.Proofs.Decimal.Nearest
import RuleReview.Proofs.LineEnds
import RuleReview.Proofs.Metrics.Figures
import RuleReview.Proofs.Metrics.Blocks
import RuleReview.Proofs.Pattern.Span
import RuleReview.Proofs.Rule.Found
import RuleReview.Proofs.Analyzer.Sound
import RuleReview.Proofs.Review.Isolation
import RuleReview.Proofs.Config.Readers
import RuleReview.Proofs.Config.Load
import RuleReview.Proofs.Config.Coherent
import RuleReview.Proofs.Config.Spelling
import RuleReview.Proofs.Toml.Keys
import RuleReview.Proofs.Rule.Walk
import RuleReview.Proofs.Rule.Messages
import RuleReview.Proofs.Rule.Nested
import RuleReview.Proofs.Analyzer.Selection
import RuleReview.Proofs.Analyzer.Gate
import RuleReview.Proofs.Analyzer.Files
import RuleReview.Proofs.CommandLine.FailOn
import RuleReview.Proofs.CommandLine.Listing
import RuleReview.Proofs.Linter.Reading
import RuleReview.Proofs.Linter.Run
import RuleReview.Proofs.Linter.Lines
import RuleReview.Proofs.Service.Answer
import RuleReview.Proofs.Service.Agreement
import RuleReview.Proofs.Report.Agreement
import RuleReview.Proofs.Report.Terminal
import RuleReview.Proofs.Report.Security
import RuleReview.Proofs.Workspace
import RuleReview.Proofs.Review.Attempts
import RuleReview.Proofs.Review.Table
import RuleReview.Proofs.Http
import RuleReview.Proofs.Text
import RuleReview.Proofs.Review.Paging
import RuleReview.Proofs.Rule.Scope
