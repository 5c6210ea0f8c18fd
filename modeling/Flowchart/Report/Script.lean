import Flowchart.Chart.Check
import Flowchart.Json.Printer
import Flowchart.Text.Blank
import Flowchart.Text.LowerCase

/-! # The chart as a script

A chart is written as a script that builds its nodes as a tree of objects.  A generator writes
scripts for several charts one after another: each script is preceded by all scripts the
generator wrote before.  A line is indented by the level at which the generator stands when it
writes the line.
-/

namespace Flowchart

namespace Script

/-- Replaces every run of blanks by one underscore. -/
def joinWords (inBlank : Bool) : Text → Text
  | [] => []
  | c :: cs =>
    if Text.isBlank c then
      if inBlank then joinWords true cs else '_' :: joinWords true cs
    else c :: joinWords false cs

/-- The variable that holds a node: its label in lower case with underscores for blanks. -/
def nodeVar (text : Text) : Text :=
  Text.lower (joinWords false text)

/-- What a node holds, as an object with at most one field. -/
def data : Content → Json
  | .state role => .object (if role.isTruthy then [("state_type", role)] else [])
  | .process action => .object (field "action" action)
  | .decision condition => .object (field "condition" condition)
  | .generic => .object []
where
  /-- The field of a text, unless it is missing or empty. -/
  field (name : Text) : Option Text → List (Text × Json)
    | none => []
    | some s => if s.isEmpty then [] else [(name, .text s)]

/-- The line that makes a node. -/
def nodeLine (n : Node) : Except LimitError Text := do
  let data ← (data n.content).print
  return nodeVar n.text ++ " = Node(" ++ Text.quoted n.text ++ ", '" ++ n.kind.name ++ "', " ++
    data ++ ")"

/-- The line that adds a child to a node.  The label of a link is written where it leaves a
decision. -/
def childLine (c : Chart) (n : Node) (child : Child) : Text :=
  let target := nodeVar (((c.node? child.place).map (·.text)).getD "")
  let start := nodeVar n.text ++ ".children.append("
  if n.kind = .decision then
    start ++ "('" ++ child.branch.getD "None" ++ "', " ++ target ++ "))"
  else start ++ target ++ ")"

/-- The lines that add the children of all nodes. -/
def treeLines (c : Chart) : List Text :=
  "" :: "# Build tree structure" ::
    c.nodes.flatMap fun n => n.children.map (childLine c n)

/-- What stands in front of a line at a level: four blanks for each step in. -/
def indent (level : Nat) : Text :=
  (List.replicate level ("    " : Text)).flatten

/-- A line as it is written at a level.  Nothing stands in front of an empty one. -/
def indented (level : Nat) (line : Text) : Text :=
  if line.isEmpty then [] else indent level ++ line

/-- A generator: the lines it has written so far, and the level at which it writes the next one. -/
structure Generator where
  lines : List Text
  level : Nat

/-- What a generator answers for a chart without nodes. -/
def nothing : Text := "No flowchart available"

namespace Generator

/-- A generator that has written nothing. -/
def fresh : Generator :=
  ⟨[], 0⟩

/-- Goes some levels in. -/
def indentBy (g : Generator) (levels : Nat) : Generator :=
  { g with level := g.level + levels }

/-- Goes some levels out. -/
def dedentBy (g : Generator) (levels : Nat) : Generator :=
  { g with level := g.level - levels }

/-- Writes a line at the current level. -/
def emit (g : Generator) (line : Text) : Generator :=
  { g with lines := g.lines ++ [indented g.level line] }

/-- Writes lines in turn. -/
def emitAll (g : Generator) (lines : List Text) : Generator :=
  lines.foldl emit g

/-- Writes the lines before the nodes: the title, and the class of the nodes. -/
def emitHeader (g : Generator) : Generator :=
  g.emit "# Flowchart Tree Structure"
    |>.emit ""
    |>.emit "class Node:"
    |>.indentBy 1
    |>.emit "def __init__(self, name, node_type, data=None):"
    |>.indentBy 1
    |>.emit "self.name = name"
    |>.emit "self.type = node_type"
    |>.emit "self.data = data or \x7b\x7d"
    |>.emit "self.children = []"
    |>.dedentBy 2
    |>.emit ""

/-- Writes the lines that make nodes.  A line that cannot be written stops it, and the lines up to
there remain. -/
def emitNodes (g : Generator) : List Node → Generator × Except LimitError Unit
  | [] => (g, .ok ())
  | n :: ns =>
    match nodeLine n with
    | .error e => (g, .error e)
    | .ok line => (g.emit line).emitNodes ns

/-- Writes the script of a chart behind what was written before.  A numeral that is too long
stops the writing, and what was written up to there remains. -/
def generate (g : Generator) (c : Chart) : Generator × Except LimitError Text :=
  if c.size = 0 then (g, .ok nothing)
  else
    match g.emitHeader.emitNodes c.nodes with
    | (g, .error e) => (g, .error e)
    | (g, .ok ()) =>
      let g := g.emitAll (treeLines c)
      (g, .ok (Text.joinWith "\n" g.lines ++ "\n"))

end Generator

end Script

/-- The script of a chart. -/
def Chart.script (c : Chart) : Except LimitError Text :=
  (Script.Generator.fresh.generate c).2

end Flowchart
