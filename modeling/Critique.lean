import Critique.Main
import Critique.Proofs.Pattern.Backtracking
import Critique.Proofs.Pattern.Extension
import Critique.Proofs.Text.Lines
import Critique.Proofs.Assessment.Findings
import Critique.Proofs.Growth.Lines
import Critique.Proofs.Growth.Findings
import Critique.Proofs.Completion.Chain
import Critique.Proofs.Service.Ladder
import Critique.Proofs.Fence
import Critique.Proofs.Text.Casing
import Critique.Proofs.Prompt.Fence
import Critique.Proofs.Text.Blank
import Critique.Proofs.Pattern.Transfer
import Critique.Proofs.Pattern.Margin
import Critique.Proofs.Layout.Scan
import Critique.Proofs.Layout.Line
import Critique.Proofs.Layout.Margin
import Critique.Proofs.Layout.Spacing
import Critique.Proofs.Layout.Invariance
import Critique.Proofs.Text.Endings
import Critique.Proofs.Pattern.Count
import Critique.Proofs.Pattern.Endings
import Critique.Proofs.Layout.Endings
import Critique.Proofs.Service.Listing
import Critique.Proofs.Completion.Token
import Critique.Proofs.Service.Offline
import Critique.Proofs.Assessment.Selection
import Critique.Proofs.CommandLine.Exit
import Critique.Proofs.CommandLine.Order
import Critique.Proofs.Layout.Tree
import Critique.Proofs.Outline.Tree
import Critique.Proofs.Nesting.Braces
import Critique.Proofs.Nesting.Depth
import Critique.Proofs.Nesting.Comments
import Critique.Proofs.Settings.Environment
import Critique.Proofs.Settings.File
import Critique.Proofs.Settings.Layers
import Critique.Proofs.Assessment.Scoring
import Critique.Proofs.Nesting.Directives
import Critique.Proofs.Text.Parts
import Critique.Proofs.Completion.Acceptance
import Critique.Proofs.Pattern.Matches
import Critique.Proofs.Catalog.Literals
import Critique.Proofs.Metrics.Declarations
import Critique.Proofs.Nesting.Joining
import Critique.Proofs.Metrics.Joining
import Critique.Proofs.Report.Lines
import Critique.Proofs.Report.Issues
import Critique.Proofs.Files.Path
import Critique.Proofs.Settings.Discovery
import Critique.Proofs.Completion.Reply
import Critique.Proofs.Text.Lower
import Critique.Proofs.Outline.Calls
import Critique.Proofs.Language
import Critique.Proofs.Service.Naming
import Critique.Proofs.Topic.Words
import Critique.Proofs.Topic.Classification
