import Flowchart.Key

/-! # Records of a flowchart

A flowchart is described by a list of node records and a list of link records.  Nothing is
required of them: keys may be repeated, and links may lead nowhere.
-/

namespace Flowchart

/-- The kinds of nodes. -/
inductive Kind where
  | state
  | process
  | decision
  | generic
  /-- A kind of which nothing but the name is known. -/
  | other (name : Text)
deriving DecidableEq

namespace Kind

/-- The name of a kind. -/
def name : Kind → Text
  | .state => "State"
  | .process => "Process"
  | .decision => "Decision"
  | .generic => "Generic"
  | .other name => name

/-- The kind with a name. -/
def ofName (s : Text) : Kind :=
  if s = "State" then .state
  else if s = "Process" then .process
  else if s = "Decision" then .decision
  else if s = "Generic" then .generic
  else .other s

/-- A kind keeps the name it is given. -/
@[simp] theorem name_ofName (s : Text) : (ofName s).name = s := by
  unfold ofName
  repeat' split
  all_goals simp_all [name]

/-- The kind that the editor draws with a figure; any other figure is a generic node. -/
def ofFigure (figure : Key) : Kind :=
  match figure with
  | .text s =>
    if s = "Ellipse" then .state
    else if s = "Rectangle" then .process
    else if s = "Diamond" then .decision
    else .generic
  | _ => .generic

end Kind

/-- The label of a node that has none. -/
def unnamed : Text := "Unnamed"

/-- The role of a state that has none. -/
def normalRole : Json := .text "normal"

/-- The description of a node. -/
structure NodeRecord where
  key : Key
  kind : Kind
  text : Text := unnamed
  action : Option Text := none
  condition : Option Text := none
  /-- The role of a state.  The editor may have stored any JSON value there. -/
  role : Option Json := none

/-- The description of a link. -/
structure LinkRecord where
  source : Key
  target : Key
  branch : Option Text := none
deriving DecidableEq

end Flowchart
