import Flowchart.Chart.Check
import Flowchart.Simulation.Event

/-! # Running a chart

A run starts at the only start state and passes from node to node.  A process performs its
action, a decision is left by the branch of its answer, and every other node by its first link.
The run is completed at an end state; it is over, without being completed, where no link leads
on.  No node is passed twice, so a run has at most as many steps as the chart has keys.
-/

namespace Flowchart

/-- The state of a run. -/
structure RunState where
  env : Env
  /-- The nodes that were passed, in order. -/
  path : List Visit := []
  /-- The keys of the nodes that were passed. -/
  visited : List Key := []
  /-- The keys of the decisions that were left by the true branch. -/
  trueTaken : List Key := []
  /-- Whether an end state was passed. -/
  completed : Bool := false

/-- What came of a step, or of several: the state after it, what happened, and the answer. -/
structure Turn (α : Type) where
  state : RunState
  events : List Event
  answer : Except StepFailure α

namespace RunState

/-- The state before the first step. -/
def start (env : Env) : RunState :=
  { env }

/-- Remembers that a node is passed. -/
def enter (s : RunState) (n : Node) : RunState :=
  { s with path := s.path ++ [Visit.ofNode n], visited := s.visited ++ [n.key] }

/-- Chooses the branch by which a decision is left and gives the place of its target.  A
condition without a truth value is reported before branches that do not fit, and those before a
true branch that was taken already. -/
def choose (s : RunState) (n : Node) (condition : Option Text) : Turn Nat :=
  match Condition.evaluate condition s.env with
  | .error (.limit e) => ⟨s, [], .error (.limit e)⟩
  | .error (.condition e) => ⟨s, [], .error (.stop (.decision n.text e))⟩
  | .ok answer =>
    match n.branches (some trueBranch), n.branches (some falseBranch) with
    | [onTrue], [onFalse] =>
      if !answer then ⟨s, [], .ok onFalse⟩
      else if n.key.isIn s.trueTaken then ⟨s, [], .error (.stop (.branchRetraversal n.text))⟩
      else ⟨{ s with trueTaken := s.trueTaken ++ [n.key] }, [], .ok onTrue⟩
    | _, _ => ⟨s, [], .error (.stop (.branchMismatch n.text))⟩

/-- Leaves a node that has been entered, and gives the place of the next node, if there is
one. -/
def leave (s : RunState) (n : Node) : Turn (Option Nat) :=
  match n.content with
  | .state _ =>
    if n.isEnd then ⟨{ s with completed := true }, [], .ok none⟩
    else ⟨s, [], .ok n.firstChild?⟩
  | .process action =>
    match Action.run action s.env with
    | .error e => ⟨s, [], .error (.limit e)⟩
    | .ok outcome =>
      let events := outcome.notice.toList.map fun notice =>
        Event.actionIgnored (action.getD "") notice
      ⟨{ s with env := outcome.env }, events, .ok n.firstChild?⟩
  | .decision condition =>
    let turn := s.choose n condition
    { turn with answer := turn.answer.map some }
  | .generic => ⟨s, [], .ok n.firstChild?⟩

/-- Passes a node, unless it was passed before. -/
def step (s : RunState) (n : Node) : Turn (Option Nat) :=
  if n.key.isIn s.visited then ⟨s, [], .error (.stop .loop)⟩
  else
    let entered := s.enter n
    let turn := entered.leave n
    { turn with
      events := .stepTaken entered.path.length (Visit.ofNode n) :: turn.events }

/-- Passes nodes from a place on until no link leads on or a step fails.  The fuel bounds the
number of steps; since no node is passed twice, one more than the number of keys is enough. -/
def walk (c : Chart) : Nat → RunState → Nat → Turn Unit
  | 0, s, _ => ⟨s, [], .error (.stop .loop)⟩
  | fuel + 1, s, place =>
    match c.node? place with
    | none => ⟨s, [], .ok ()⟩
    | some n =>
      let turn := s.step n
      match turn.answer with
      | .error e => ⟨turn.state, turn.events, .error e⟩
      | .ok none => ⟨turn.state, turn.events, .ok ()⟩
      | .ok (some next) =>
        let rest := walk c fuel turn.state next
        { rest with events := turn.events ++ rest.events }

end RunState

namespace Chart

/-- The place of the only start state. -/
def findStart (c : Chart) : Except RunError Nat :=
  match c.starts with
  | [] => .error .missingStart
  | [start] => .ok start
  | _ => .error .multipleStarts

/-- The place where a run of the chart starts.  A chart that breaks a rule is not run. -/
def entrance (c : Chart) : Except RunError Nat :=
  if c.isValid then c.findStart else .error .invalidChart

end Chart

/-- The result of a run. -/
structure RunResult where
  path : List Visit
  env : Env
  completed : Bool
  error : Option RunError

namespace RunResult

/-- Whether a run came to its end. -/
def isValid (r : RunResult) : Bool :=
  r.error.isNone

/-- The result of a run that stops in a state. -/
def stopped (s : RunState) (e : RunError) : RunResult :=
  ⟨s.path, s.env, false, some e⟩

/-- The result of a run that comes to its end in a state. -/
def finished (s : RunState) : RunResult :=
  ⟨s.path, s.env, s.completed, none⟩

end RunResult

namespace RunState

/-- Ends a run with its last event. -/
def conclude (turn : Turn Unit) : Turn RunResult :=
  match turn.answer with
  | .error (.limit e) => ⟨turn.state, turn.events, .error (.limit e)⟩
  | .error (.stop e) =>
    ⟨turn.state, turn.events ++ [.runStopped turn.state.path.length e],
      .ok (.stopped turn.state e)⟩
  | .ok () =>
    ⟨turn.state, turn.events ++ [.runFinished turn.state.path.length turn.state.completed],
      .ok (.finished turn.state)⟩

/-- Runs a chart from its start state, on top of whatever the state has been through.  The only
failure that is not a result is a numeral that is too long. -/
def run (c : Chart) (s : RunState) : Turn RunResult :=
  match c.entrance with
  | .error e => conclude ⟨s, [], .error (.stop e)⟩
  | .ok place => conclude (walk c (c.size + 1) s place)

end RunState

namespace Chart

/-- Runs a chart with initial variables. -/
def simulate (c : Chart) (env : Env) : Turn RunResult :=
  (RunState.start env).run c

end Chart

end Flowchart
