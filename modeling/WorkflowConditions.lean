import WorkflowConditions.CommandLine.Arguments
import WorkflowConditions.CommandLine.Command
import WorkflowConditions.CommandLine.Run
import WorkflowConditions.CommandLine.Trace
import WorkflowConditions.Condition.Basic
import WorkflowConditions.Condition.Build
import WorkflowConditions.Condition.Leaves
import WorkflowConditions.Condition.Outline
import WorkflowConditions.Condition.Parse
import WorkflowConditions.Condition.Render
import WorkflowConditions.Decimal.Binary64
import WorkflowConditions.Decimal.Shortest
import WorkflowConditions.Digest.Sha256
import WorkflowConditions.Failure
import WorkflowConditions.Layout.Lines
import WorkflowConditions.Layout.Segment
import WorkflowConditions.Log.Level
import WorkflowConditions.Log.Record
import WorkflowConditions.Main
import WorkflowConditions.Markdown.Expression
import WorkflowConditions.Markdown.Extractor
import WorkflowConditions.Markdown.Input
import WorkflowConditions.Proofs.Condition.Balance
import WorkflowConditions.Proofs.Condition.Conjunction
import WorkflowConditions.Proofs.Condition.FirstError
import WorkflowConditions.Proofs.Condition.Grammar
import WorkflowConditions.Proofs.Condition.Inventory
import WorkflowConditions.Proofs.Condition.Meaning
import WorkflowConditions.Proofs.Condition.Recognition
import WorkflowConditions.Proofs.Condition.RoundTrip
import WorkflowConditions.Proofs.Condition.Tree
import WorkflowConditions.Proofs.Condition.Visit
import WorkflowConditions.Proofs.Condition.Walk
import WorkflowConditions.Proofs.Layout.LongLines
import WorkflowConditions.Proofs.Layout.Operands
import WorkflowConditions.Proofs.Layout.Places
import WorkflowConditions.Proofs.Layout.Rows
import WorkflowConditions.Proofs.Layout.Rule
import WorkflowConditions.Proofs.Layout.SameCondition
import WorkflowConditions.Proofs.Layout.Segmentation
import WorkflowConditions.Proofs.ListFacts
import WorkflowConditions.Proofs.Markdown.Filling
import WorkflowConditions.Proofs.Markdown.Naming
import WorkflowConditions.Proofs.Markdown.Reading
import WorkflowConditions.Proofs.Markdown.Recording
import WorkflowConditions.Proofs.Markdown.Replacement
import WorkflowConditions.Proofs.Markdown.Unwrapping
import WorkflowConditions.Proofs.Settings.Breakdown
import WorkflowConditions.Proofs.Settings.Layers
import WorkflowConditions.Proofs.Settings.Precedence
import WorkflowConditions.Proofs.Text.Balance
import WorkflowConditions.Proofs.Text.ClosingMark
import WorkflowConditions.Proofs.Text.Collapse
import WorkflowConditions.Proofs.Text.Quotation
import WorkflowConditions.Proofs.Text.Space
import WorkflowConditions.Proofs.Token.Composition
import WorkflowConditions.Proofs.Token.Literal
import WorkflowConditions.Proofs.Token.LiteralText
import WorkflowConditions.Proofs.Token.Partition
import WorkflowConditions.Proofs.Token.Respacing
import WorkflowConditions.Proofs.Token.Scan
import WorkflowConditions.Proofs.Token.Seam
import WorkflowConditions.Proofs.Trigger.ActivityTypes
import WorkflowConditions.Proofs.Trigger.EnabledSet
import WorkflowConditions.Proofs.Trigger.GateMeaning
import WorkflowConditions.Proofs.Trigger.GateText
import WorkflowConditions.Proofs.Trigger.Subscription
import WorkflowConditions.Proofs.Value.Equality
import WorkflowConditions.Proofs.Value.Layering
import WorkflowConditions.Settings.Basic
import WorkflowConditions.Settings.Environment
import WorkflowConditions.Settings.Integer
import WorkflowConditions.Settings.Load
import WorkflowConditions.Settings.Yaml.Document
import WorkflowConditions.Settings.Yaml.Flow
import WorkflowConditions.Settings.Yaml.Node
import WorkflowConditions.Settings.Yaml.Quoted
import WorkflowConditions.Settings.Yaml.Word
import WorkflowConditions.Terminal.Drawing
import WorkflowConditions.Terminal.Sequence
import WorkflowConditions.Terminal.Wrap
import WorkflowConditions.Text.Case
import WorkflowConditions.Text.Cased
import WorkflowConditions.Text.Cluster
import WorkflowConditions.Text.Columns
import WorkflowConditions.Text.Display
import WorkflowConditions.Text.Lines
import WorkflowConditions.Text.Normal
import WorkflowConditions.Text.Occurrence
import WorkflowConditions.Text.Printable
import WorkflowConditions.Text.Quotation
import WorkflowConditions.Text.Ranges
import WorkflowConditions.Text.Similarity
import WorkflowConditions.Text.Space
import WorkflowConditions.Text.Wrapper
import WorkflowConditions.Token.Basic
import WorkflowConditions.Token.Scan
import WorkflowConditions.Trigger.Command
import WorkflowConditions.Trigger.Event
import WorkflowConditions.Value.Basic
import WorkflowConditions.Value.Display
import WorkflowConditions.Value.Json.Read
import WorkflowConditions.Value.Json.Write
import WorkflowConditions.Value.Merge
