import Flowchart.Chart.Basic
import Flowchart.Number.Decimal

/-! # Measures of a chart -/

namespace Flowchart.Chart

/-- The greatest number of nodes on a way that starts at a place, follows links and never comes
to a key of `onPath` or to the key of a node it has passed.  The fuel bounds the length of the
way. -/
def depthFrom (c : Chart) : Nat → List Key → Nat → Nat
  | 0, _, _ => 0
  | fuel + 1, onPath, place =>
    match c.node? place with
    | none => 0
    | some n =>
      1 + n.children.foldl (fun best child =>
        match c.node? child.place with
        | none => best
        | some m =>
          if m.key.isIn onPath then best
          else max best (c.depthFrom fuel (m.key :: onPath) child.place)) 0

/-- The greatest number of nodes on a way from the first start state on which no key is repeated.
Such a way has at most as many nodes as the chart has keys. -/
def maxDepth (c : Chart) : Nat :=
  match c.starts with
  | [] => 0
  | start :: _ =>
    match c.node? start with
    | none => 0
    | some n => c.depthFrom c.size [n.key] start

/-- The average number of links that leave a node. -/
def branchingFactor (c : Chart) : Binary64 :=
  if c.size = 0 then .zero false else .ofRatio false c.linkCount c.size

/-- The cyclomatic number of a chart that hangs together. -/
def cyclomaticNumber (c : Chart) : Int :=
  (c.linkCount : Int) - c.size + 2

/-- The number of decisions. -/
def decisionCount (c : Chart) : Nat :=
  c.nodes.countP fun n => n.kind = .decision

end Flowchart.Chart
