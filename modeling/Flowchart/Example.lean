import Flowchart.Json.Basic

/-! # Bundled examples

Four small flowcharts in the form in which the editor saves them.
-/

namespace Flowchart.Example

/-- A node of an example; the fields besides its key, label and figure are given as they are. -/
def node (key : Int) (text figure : Text) (more : List (Text × Text)) : Json :=
  .object (("key", .int key) :: ("text", .text text) :: ("figure", .text figure) ::
    more.map fun (name, s) => (name, .text s))

/-- A state with a role. -/
def state (key : Int) (text role : Text) (more : List (Text × Text)) : Json :=
  node key text "Ellipse" (("stateType", role) :: more)

/-- A link without a label. -/
def link (source target : Int) : Json :=
  .object [("from", .int source), ("to", .int target)]

/-- A link with a label. -/
def branch (source target : Int) (label : Text) : Json :=
  .object [("from", .int source), ("to", .int target), ("branchType", .text label)]

/-- A bundled flowchart. -/
structure Model where
  name : Text
  nodes : List Json
  links : List Json

/-- A flowchart as the editor saves it. -/
def Model.toJson (m : Model) : Json :=
  .object [("nodes", .list m.nodes), ("links", .list m.links)]

/-- Three processes in a row. -/
def processFlow : Model where
  name := "process-flow"
  nodes := [
    state 1 "Start" "start" [("loc", "0 0")],
    node 2 "Process 1" "Rectangle" [("loc", "0 100")],
    node 3 "Process 2" "Rectangle" [("loc", "0 200")],
    node 4 "Process 3" "Rectangle" [("loc", "0 300")],
    state 5 "End" "end" [("loc", "0 400")]]
  links := [link 1 2, link 2 3, link 3 4, link 4 5]

/-- A decision between two processes. -/
def decisionTree : Model where
  name := "decision-tree"
  nodes := [
    state 1 "Start" "start" [("loc", "0 0")],
    node 2 "Decision 1" "Diamond" [("loc", "0 100")],
    node 3 "Process A" "Rectangle" [("loc", "-150 200")],
    node 4 "Process B" "Rectangle" [("loc", "150 200")],
    state 5 "End" "end" [("loc", "0 300")]]
  links := [link 1 2, branch 2 3 "true", branch 2 4 "false", link 3 5, link 4 5]

/-- A process that is repeated while a condition holds. -/
def simpleLoop : Model where
  name := "simple-loop"
  nodes := [
    state 1 "Start" "start" [("loc", "0 0")],
    node 2 "Process" "Rectangle" [("loc", "0 100")],
    node 3 "Decision" "Diamond" [("loc", "0 200")],
    state 4 "End" "end" [("loc", "200 200")]]
  links := [link 1 2, link 2 3, branch 3 2 "true", branch 3 4 "false"]

/-- A value that is moved toward a threshold; it can be run as it is. -/
def threshold : Model where
  name := "threshold"
  nodes := [
    state 1 "Start" "start" [],
    node 2 "Copy x" "Rectangle" [("action", "y = x")],
    node 3 "Above ten?" "Diamond" [("condition", "y > 10")],
    node 4 "Reduce" "Rectangle" [("action", "y - 10")],
    node 5 "Raise" "Rectangle" [("action", "y + 10")],
    state 6 "End" "end" []]
  links := [
    link 1 2, link 2 3, branch 3 4 "true", branch 3 5 "false", link 4 6, link 5 6]

/-- The bundled flowcharts, in the order in which they are listed. -/
def all : List Model :=
  [processFlow, decisionTree, simpleLoop, threshold]

/-- The bundled flowchart with a name. -/
def find? (name : Text) : Option Model :=
  all.find? (·.name == name)

end Flowchart.Example
