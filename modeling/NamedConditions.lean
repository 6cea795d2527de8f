import NamedConditions.Number.Exact
import NamedConditions.Text.Blank
import NamedConditions.Text.Quoted
import NamedConditions.Value.Truth
import NamedConditions.Failure.Basic
import NamedConditions.Condition.Validation
import NamedConditions.Pass.Report
import NamedConditions.Context.Layering
import NamedConditions.Context.Source
import NamedConditions.Trace.Span
import NamedConditions.Session.Evaluation
import NamedConditions.Trace.Export
import NamedConditions.Trace.Tracer
import NamedConditions.Json.Writer
import NamedConditions.Json.Reader
import NamedConditions.Markup.Display
import NamedConditions.Command.Target
import NamedConditions.Command.Arguments
import NamedConditions.Command.Transcript
import NamedConditions.Command.Run
import NamedConditions.Main
import NamedConditions.Number.Residue
import NamedConditions.Value.Slots
import NamedConditions.Proofs.Value.Truth
import NamedConditions.Proofs.Simulation
import NamedConditions.Proofs.Session.Change
import NamedConditions.Proofs.Session.Interpreter
import NamedConditions.Proofs.Pass.Agreement
import NamedConditions.Proofs.Context.Overlay
import NamedConditions.Proofs.Context.Cells
import NamedConditions.Proofs.Context.History
import NamedConditions.Proofs.Pass.Attribution
import NamedConditions.Proofs.Pass.Chain
import NamedConditions.Proofs.Context.Layers
import NamedConditions.Proofs.Context.Snapshot
import NamedConditions.Proofs.Pass.Matches
import NamedConditions.Proofs.Trace.Calls
import NamedConditions.Proofs.Trace.Observed
import NamedConditions.Proofs.Trace.Nesting
import NamedConditions.Proofs.Trace.Outcome
import NamedConditions.Proofs.Context.Readings
import NamedConditions.Proofs.Context.Copies
import NamedConditions.Proofs.Context.Sound
import NamedConditions.Proofs.Session.Confined
import NamedConditions.Proofs.Session.View
import NamedConditions.Proofs.Session.Forks
import NamedConditions.Proofs.Session.Operand
import NamedConditions.Proofs.Session.Renaming
import NamedConditions.Proofs.Session.Quiet
import NamedConditions.Proofs.Session.Repetition
import NamedConditions.Proofs.Condition.Faults
import NamedConditions.Proofs.Pass.Silenced
import NamedConditions.Proofs.Markup.Escaped
import NamedConditions.Proofs.Command.Target
import NamedConditions.Proofs.Command.Exit
import NamedConditions.Proofs.Pass.Alongside
import NamedConditions.Proofs.Command.Modes
import NamedConditions.Proofs.Session.Rebuilt
import NamedConditions.Proofs.Session.Strict
import NamedConditions.Proofs.Trace.Reported
import NamedConditions.Proofs.Pass.Concatenation
import NamedConditions.Proofs.Pass.Reordering
import NamedConditions.Proofs.Markup.Shown
import NamedConditions.Proofs.Command.Validated
import NamedConditions.Proofs.Command.Lines
import NamedConditions.Proofs.Command.Search
import NamedConditions.Proofs.Command.RuntimeLayer
import NamedConditions.Proofs.Json.Grammar
import NamedConditions.Proofs.Json.Numerals
import NamedConditions.Proofs.Json.Written
import NamedConditions.Proofs.Json.Encodable
import NamedConditions.Proofs.Command.Documents
import NamedConditions.Proofs.Trace.Guarded
import NamedConditions.Proofs.Trace.Parsed
import NamedConditions.Proofs.Trace.Exported
import NamedConditions.Proofs.Trace.StandIn
