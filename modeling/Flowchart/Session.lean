import Flowchart.Simulation.Basic

/-! # Sessions

A session holds a chart that is being edited and a run on it.  The run goes on over edits: it
sees the chart as it is at each step.
-/

namespace Flowchart

/-- A chart and a run on it. -/
structure Session where
  chart : Chart
  run : RunState

namespace Session

/-- A session on a chart with a run that has not begun and knows no variables. -/
def ofChart (c : Chart) : Session :=
  ⟨c, .start .empty⟩

/-- What can be done in a session.  Nodes are given by their keys; only the parent of a child that is
relabelled is given by its place, and it may have been replaced. -/
inductive Command where
  | add (record : NodeRecord)
  | link (record : LinkRecord)
  /-- Links two nodes without listing the link on the chart. -/
  | connect (source target : Key) (branch : Option Text)
  /-- Replaces the label of a child, which is given by its number. -/
  | relabel (place child : Nat) (branch : Option Text)
  /-- Forgets the run and begins a new one. -/
  | restart (env : Env)
  /-- Passes a node. -/
  | step (key : Key)
  /-- Chooses a branch of a decision without passing it. -/
  | choose (key : Key)
  /-- Runs the chart to its end. -/
  | finish

/-- What a command answers. -/
inductive Reply where
  | done
  /-- Whether a link could be made. -/
  | linked (made : Bool)
  /-- The key of the next node, if there is one. -/
  | next (key : Option Key)
  | result (r : RunResult)

/-- Why a command failed. -/
inductive Error where
  | missingKey (key : Key)
  | missingChild
  | notADecision
  | step (failure : StepFailure)

/-- The place of the current node of a key. -/
def place (s : Session) (k : Key) : Except Error Nat :=
  match s.chart.place? k with
  | some p => .ok p
  | none => .error (.missingKey k)

/-- The current node of a key. -/
def node (s : Session) (k : Key) : Except Error Node :=
  match s.chart.find? k with
  | some n => .ok n
  | none => .error (.missingKey k)

/-- The key of the node at a place. -/
def keyAt (s : Session) (place : Nat) : Option Key :=
  (s.chart.node? place).map (·.key)

/-- Links two nodes. -/
def connect (s : Session) (source target : Key) (branch : Option Text) :
    Except Error Session := do
  let source ← s.place source
  let target ← s.place target
  return { s with chart := s.chart.connect source target branch }

/-- The current node of a key, and its condition if it is a decision. -/
def decision (s : Session) (k : Key) : Except Error (Node × Option Text) := do
  let n ← s.node k
  match n.content with
  | .decision condition => return (n, condition)
  | _ => .error .notADecision

/-- Goes on in the state after a turn, also if the turn failed. -/
def follow {α : Type} (s : Session) (turn : Turn α) (reply : α → Reply) :
    Session × Except Error Reply :=
  ({ s with run := turn.state }, (turn.answer.map reply).mapError .step)

/-- Carries out a command.  A command that fails changes the session only if it is a step that
entered its node, or a run. -/
def perform (s : Session) : Command → Session × Except Error Reply
  | .add record => ({ s with chart := s.chart.add (Node.ofRecord record) }, .ok .done)
  | .link record =>
    match s.chart.link record with
    | some chart => ({ s with chart }, .ok (.linked true))
    | none => (s, .ok (.linked false))
  | .connect source target branch =>
    match s.connect source target branch with
    | .ok s' => (s', .ok .done)
    | .error e => (s, .error e)
  | .relabel place child branch =>
    match s.chart.relabel place child branch with
    | some chart => ({ s with chart }, .ok .done)
    | none => (s, .error .missingChild)
  | .restart env => ({ s with run := .start env }, .ok .done)
  | .step key =>
    match s.node key with
    | .ok n => s.follow (s.run.step n) fun next => .next (next.bind s.keyAt)
    | .error e => (s, .error e)
  | .choose key =>
    match s.decision key with
    | .ok (n, condition) => s.follow (s.run.choose n condition) fun next => .next (s.keyAt next)
    | .error e => (s, .error e)
  | .finish => s.follow (s.run.run s.chart) .result

end Session

end Flowchart
