import Flowchart.Action
import Flowchart.Chart.Basic
import Flowchart.Simulation.Error

/-! # Events

What happens while a chart is built and run is told as events.  Each event has a level, a source
and a message, and a log is a list of events.
-/

namespace Flowchart

/-- How important an event is. -/
inductive Level where
  | debug
  | info
  | warning
deriving DecidableEq

/-- The name of a level. -/
def Level.name : Level → Text
  | .debug => "DEBUG"
  | .info => "INFO"
  | .warning => "WARNING"

/-- The rank of a level among all levels. -/
def Level.rank : Level → Nat
  | .debug => 10
  | .info => 20
  | .warning => 30

/-- What a run remembers of a node it passes. -/
structure Visit where
  key : Key
  text : Text
  content : Content

/-- What a run remembers of a node. -/
def Visit.ofNode (n : Node) : Visit :=
  ⟨n.key, n.text, n.content⟩

/-- A node that was passed, as reports show it. -/
def Visit.written (v : Visit) : Except LimitError Text :=
  Node.written { key := v.key, text := v.text, content := v.content }

/-- Something that happens while a chart is built or run. -/
inductive Event where
  /-- A link was left out because one of its ends is not on the chart. -/
  | linkSkipped (source target : Key)
  | chartLoaded (nodes links : Nat)
  | actionIgnored (action : Text) (notice : ActionNotice)
  | stepTaken (number : Nat) (visit : Visit)
  | runStopped (steps : Nat) (error : RunError)
  | runFinished (steps : Nat) (completed : Bool)

namespace Event

/-- The level of an event. -/
def level : Event → Level
  | .linkSkipped .. | .stepTaken .. => .debug
  | .actionIgnored _ (.undefinedOperand _) | .actionIgnored _ (.undefinedTarget _) => .debug
  | .actionIgnored .. => .warning
  | .chartLoaded .. | .runStopped .. | .runFinished .. => .info

/-- The part of the program that an event comes from. -/
def source : Event → Text
  | .linkSkipped .. => "flow"
  | .chartLoaded .. => "flow_cli"
  | .actionIgnored .. => "flow_eval"
  | .stepTaken .. | .runStopped .. | .runFinished .. => "flow_sim"

/-- What is said about an action that was not performed. -/
def actionMessage (action : Text) : ActionNotice → Text
  | .malformed e => "ignoring malformed action " ++ action ++ ": " ++ e.message
  | .comparison => "ignoring action " ++ action ++ ": comparison is not an action"
  | .undefinedOperand x => "action " ++ action ++ ": operand " ++ Text.quoted x ++ " is undefined"
  | .undefinedTarget x => "action " ++ action ++ ": variable " ++ Text.quoted x ++ " is undefined"
  | .booleanArithmetic => "ignoring action " ++ action ++ ": arithmetic on a boolean value"
  | .divisionByZero => "ignoring action " ++ action ++ ": division by zero"

/-- What is said about an event. -/
def message : Event → Except LimitError Text
  | .linkSkipped source target => do
    let source ← source.written
    let target ← target.written
    return "skipping link " ++ source ++ " -> " ++ target ++ ": endpoint missing"
  | .chartLoaded nodes links =>
    .ok ("loaded flowchart: " ++ Numeral.text nodes ++ " node(s), " ++ Numeral.text links ++
      " link(s)")
  | .actionIgnored action notice => .ok (actionMessage (Text.quoted action) notice)
  | .stepTaken number visit => do
    let node ← visit.written
    return "step " ++ Numeral.text number ++ ": " ++ node
  | .runStopped steps error =>
    .ok ("simulation stopped after " ++ Numeral.text steps ++ " step(s): " ++ error.message)
  | .runFinished steps completed =>
    .ok ("simulation finished after " ++ Numeral.text steps ++ " step(s), completed=" ++
      if completed then "True" else "False")

/-- The line of a log that tells an event. -/
def line (e : Event) : Except LimitError Text := do
  let message ← e.message
  return e.level.name ++ " " ++ e.source ++ ": " ++ message

end Event

end Flowchart
