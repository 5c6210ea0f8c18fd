import Flowchart.Chart.Measure

/-! # The outline of a chart

The outline lists the measures of a chart, then every node with its details and the nodes its
links lead to.
-/

namespace Flowchart

namespace Node

/-- The kind of a node and what it holds. -/
def details (n : Node) : Except LimitError Text :=
  let start := "Type: " ++ n.kind.name
  match n.content with
  | .state role =>
    if role.isTruthy then do
      let role ← role.display
      return start ++ ", StateType: " ++ role
    else .ok start
  | .process action => .ok (start ++ Text.headed ", Action: " action)
  | .decision condition => .ok (start ++ Text.headed ", Condition: " condition)
  | .generic => .ok start

end Node

namespace Chart

/-- A child of a node with the label of its link. -/
def connection (c : Chart) (child : Child) : Text :=
  let text : Text := ((c.node? child.place).map (·.text)).getD ""
  match child.branch with
  | none => "→ " ++ text
  | some b => if b.isEmpty then "→ " ++ text else "→ " ++ text ++ " (" ++ b ++ " branch)"

/-- The children of a node, one a line. -/
def connections (c : Chart) (n : Node) : Text :=
  if n.children.isEmpty then "No outgoing connections"
  else Text.joinWith "\n      " (n.children.map c.connection)

/-- The lines of the outline that tell of the nodes, numbered from `number`. -/
def nodeLines (c : Chart) (number : Nat) : List Node → Except LimitError (List Text)
  | [] => .ok []
  | n :: ns => do
    let details ← n.details
    let rest ← c.nodeLines (number + 1) ns
    return ["Node " ++ Numeral.text number ++ ": " ++ n.text,
      "  " ++ details,
      "  Connections:\n    " ++ c.connections n,
      ""] ++ rest

/-- The outline of a chart. -/
def outline (c : Chart) : Except LimitError Text :=
  if c.size = 0 then .ok "No AST available"
  else do
    let nodeLines ← c.nodeLines 1 c.nodes
    let measures : List Text :=
      ["Abstract Syntax Tree:",
       "",
       "Analysis Statistics:",
       "• Total Nodes: " ++ Numeral.text c.size,
       "• Decision Nodes: " ++ Numeral.text c.decisionCount,
       "• Maximum Depth: " ++ Numeral.text c.maxDepth,
       "• Average Branching Factor: " ++ c.branchingFactor.twoPlaces,
       "• Cyclomatic Complexity: " ++ Numeral.signed c.cyclomaticNumber,
       "",
       "AST Structure:"]
    return Text.joinWith "\n" (measures ++ nodeLines) ++ "\n"

end Chart

end Flowchart
