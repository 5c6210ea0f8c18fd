import Flowchart.Action
import Flowchart.Chart.Basic
import Flowchart.Chart.Check
import Flowchart.Chart.Lemmas
import Flowchart.Chart.Measure
import Flowchart.Command.Arguments
import Flowchart.Command.File
import Flowchart.Command.LogLevel
import Flowchart.Command.Run
import Flowchart.Command.Usage
import Flowchart.Command.Variables
import Flowchart.Condition
import Flowchart.Env
import Flowchart.Example
import Flowchart.Expr.Basic
import Flowchart.Expr.Parser
import Flowchart.Expr.Token
import Flowchart.Json.Basic
import Flowchart.Json.Display
import Flowchart.Json.Parser
import Flowchart.Json.Printer
import Flowchart.Key
import Flowchart.Main
import Flowchart.Model
import Flowchart.Number.Binary64
import Flowchart.Number.Decimal
import Flowchart.Number.Numeral
import Flowchart.Proofs.Action
import Flowchart.Proofs.Chart.Adjacency
import Flowchart.Proofs.Chart.Builder
import Flowchart.Proofs.Chart.Cyclomatic
import Flowchart.Proofs.Chart.Depth
import Flowchart.Proofs.Chart.Edit
import Flowchart.Proofs.Chart.Negate
import Flowchart.Proofs.Chart.Order
import Flowchart.Proofs.Chart.Recode
import Flowchart.Proofs.Chart.Rename
import Flowchart.Proofs.Chart.Rules
import Flowchart.Proofs.Chart.Search
import Flowchart.Proofs.Chart.Store
import Flowchart.Proofs.Command.Simulate
import Flowchart.Proofs.Command.Variables
import Flowchart.Proofs.Condition
import Flowchart.Proofs.Expr.Grammar
import Flowchart.Proofs.Expr.Limit
import Flowchart.Proofs.Expr.Scan
import Flowchart.Proofs.Expr.Spelling
import Flowchart.Proofs.Json.Printer
import Flowchart.Proofs.Json.Quote
import Flowchart.Proofs.Key
import Flowchart.Proofs.Model
import Flowchart.Proofs.Model.Faults
import Flowchart.Proofs.Number.Numeral
import Flowchart.Proofs.Report.Generator
import Flowchart.Proofs.Report.Quoting
import Flowchart.Proofs.Report.Rename
import Flowchart.Proofs.Report.Script
import Flowchart.Proofs.Report.Trace
import Flowchart.Proofs.Report.Values
import Flowchart.Proofs.Session
import Flowchart.Proofs.Simulation.Alike
import Flowchart.Proofs.Simulation.Alongside
import Flowchart.Proofs.Simulation.Depth
import Flowchart.Proofs.Simulation.Escape
import Flowchart.Proofs.Simulation.Evolution
import Flowchart.Proofs.Simulation.Failure
import Flowchart.Proofs.Simulation.Locality
import Flowchart.Proofs.Simulation.Lockstep
import Flowchart.Proofs.Simulation.Mention
import Flowchart.Proofs.Simulation.Negate
import Flowchart.Proofs.Simulation.Order
import Flowchart.Proofs.Simulation.Outcome
import Flowchart.Proofs.Simulation.Rename
import Flowchart.Proofs.Simulation.Replay
import Flowchart.Proofs.Simulation.Step
import Flowchart.Proofs.Simulation.Trail
import Flowchart.Proofs.Simulation.Walk
import Flowchart.Proofs.Text.Lines
import Flowchart.Proofs.Text.Quoted
import Flowchart.Proofs.Value
import Flowchart.Record
import Flowchart.Report.Outline
import Flowchart.Report.Script
import Flowchart.Report.Trace
import Flowchart.Session
import Flowchart.Simulation.Basic
import Flowchart.Simulation.Error
import Flowchart.Simulation.Event
import Flowchart.Text.Basic
import Flowchart.Text.Blank
import Flowchart.Text.Digit
import Flowchart.Text.LowerCase
import Flowchart.Text.Printable
import Flowchart.Text.Quoted
import Flowchart.Text.Utf8
import Flowchart.Value
