import Flowchart.Chart.Basic

/-! # Structural rules

1. Any number of links may lead to a node.
2. At most one link leaves a node that is not a decision.
3. Exactly two links leave a decision, one labelled true and one labelled false.
4. Every node has a link, unless it is the only one.

All violations are listed: first those of the nodes, then those of the links.
-/

namespace Flowchart

/-- The label of the branch that is taken when a condition holds. -/
def trueBranch : Text := "true"

/-- The label of the branch that is taken when a condition does not hold. -/
def falseBranch : Text := "false"

/-- A violation of a rule. -/
inductive Violation where
  /-- A decision has `count` links. -/
  | decisionLinks (count : Nat)
  /-- A decision has two links, but not one for each answer. -/
  | decisionBranches
  /-- A node of another kind has `count` links. -/
  | tooManyLinks (kind : Kind) (count : Nat)
  | notConnected
  /-- A link from a decision has no label. -/
  | missingLabel
deriving DecidableEq

/-- The report on a violation. -/
def Violation.message : Violation → Text
  | .decisionLinks count =>
    "Decision node must have exactly two outgoing links (currently has " ++ Numeral.text count ++
      ")."
  | .decisionBranches => "Decision node must have both true and false branches."
  | .tooManyLinks kind count =>
    kind.name ++ " node can only have one outgoing link (currently has " ++ Numeral.text count ++
      ")."
  | .notConnected => "Node is not connected to any other node."
  | .missingLabel => "Link from decision node must specify a branch type (true/false)."

/-- The violations by the links that leave a node. -/
def Node.linkViolations (n : Node) : List Violation :=
  let count := n.children.length
  if n.kind = .decision then
    if count ≠ 2 then [.decisionLinks count]
    else
      let labels := n.children.map (·.branch)
      if labels = [some trueBranch, some falseBranch] ∨
          labels = [some falseBranch, some trueBranch] then []
      else [.decisionBranches]
  else if 1 < count then [.tooManyLinks n.kind count]
  else []

/-- The violations at a node. -/
def Node.violations (n : Node) : List Violation :=
  n.linkViolations ++
    if n.children.isEmpty && n.parents.isEmpty then [.notConnected] else []

namespace Chart

/-- The violations by a link.  A link whose ends are not on the chart violates nothing. -/
def linkViolations (c : Chart) (r : LinkRecord) : List Violation :=
  match c.find? r.source with
  | none => []
  | some source =>
    if c.contains r.target && source.kind = .decision && r.branch.all (·.isEmpty) then
      [.missingLabel]
    else []

/-- The violations on a chart.  A chart with at most one node has none. -/
def violations (c : Chart) : List Violation :=
  if c.size ≤ 1 then []
  else c.nodes.flatMap Node.violations ++ c.links.flatMap c.linkViolations

/-- Whether a chart keeps all rules. -/
def isValid (c : Chart) : Bool :=
  c.violations.isEmpty

end Chart

end Flowchart
