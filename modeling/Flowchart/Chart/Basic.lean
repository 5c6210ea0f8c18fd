import Flowchart.Record

/-! # Flowcharts

A chart holds every node that was ever placed on it, in the order of placing, and an index that
says for each key which of these nodes is the current one.  Placing a node under a key that is
taken makes the new node current; the old one keeps its links, and links that led to it still
do.  That is why a link is held as the place of its target among the nodes and not as a key.

The index keeps the order in which the keys were first used, and the spelling they had then.
-/

namespace Flowchart

/-- What a node holds besides its key and label. -/
inductive Content where
  | state (role : Json)
  | process (action : Option Text)
  | decision (condition : Option Text)
  | generic

namespace Content

/-- The kind of node that holds a content. -/
def kind : Content → Kind
  | .state _ => .state
  | .process _ => .process
  | .decision _ => .decision
  | .generic => .generic

/-- The role, if the content is that of a state. -/
def role? : Content → Option Json
  | .state role => some role
  | _ => none

/-- The action, if the content is that of a process and it has one. -/
def action? : Content → Option Text
  | .process action => action
  | _ => none

/-- The condition, if the content is that of a decision and it has one. -/
def condition? : Content → Option Text
  | .decision condition => condition
  | _ => none

/-- Whether the content is that of a state with the given role. -/
def hasRole (name : Text) : Content → Bool
  | .state (.text s) => s = name
  | _ => false

end Content

/-- A link as its source holds it. -/
structure Child where
  /-- The place of the target among the nodes of the chart. -/
  place : Nat
  branch : Option Text
deriving DecidableEq

/-- A node of a chart. -/
structure Node where
  key : Key
  text : Text
  content : Content
  children : List Child := []
  /-- The keys of the nodes from which links lead here, one for each link. -/
  parents : List Key := []

namespace Node

/-- The kind of a node. -/
def kind (n : Node) : Kind :=
  n.content.kind

/-- Whether a node is a state where a run can start. -/
def isStart (n : Node) : Bool :=
  n.content.hasRole "start"

/-- Whether a node is a state where a run is completed. -/
def isEnd (n : Node) : Bool :=
  n.content.hasRole "end"

/-- The place of the first child. -/
def firstChild? (n : Node) : Option Nat :=
  n.children.head?.map (·.place)

/-- The places of the children that are linked with a label. -/
def branches (n : Node) (label : Option Text) : List Nat :=
  (n.children.filter (·.branch = label)).map (·.place)

/-- The node that a record describes, without links.  An empty label counts as none, and so does
a role that counts as absent; a kind that is not known makes a generic node. -/
def ofRecord (r : NodeRecord) : Node where
  key := r.key
  text := if r.text.isEmpty then unnamed else r.text
  content :=
    match r.kind with
    | .state =>
      match r.role with
      | some role => .state (if role.isTruthy then role else normalRole)
      | none => .state normalRole
    | .process => .process r.action
    | .decision => .decision r.condition
    | .generic | .other _ => .generic

/-- A node as reports show it. -/
def written (n : Node) : Except LimitError Text := do
  let key ← n.key.written
  return "<" ++ n.kind.name ++ " " ++ key ++ " " ++ Text.quoted n.text ++ ">"

end Node

/-- A flowchart. -/
structure Chart where
  /-- Every node ever placed, in order. -/
  placed : List Node
  /-- The keys in order of first use, each with the place of its current node. -/
  index : List (Key × Nat)
  /-- The links that were made by key, in order. -/
  links : List LinkRecord

namespace Chart

/-- The chart without nodes. -/
def empty : Chart :=
  ⟨[], [], []⟩

/-- The number of keys. -/
def size (c : Chart) : Nat :=
  c.index.length

/-- The keys, in order. -/
def keys (c : Chart) : List Key :=
  c.index.map Prod.fst

/-- The places of the current nodes, in the order of their keys. -/
def places (c : Chart) : List Nat :=
  c.index.map Prod.snd

/-- The node at a place. -/
def node? (c : Chart) (place : Nat) : Option Node :=
  c.placed[place]?

/-- The current nodes, in the order of their keys. -/
def nodes (c : Chart) : List Node :=
  c.places.filterMap c.node?

/-- The place of the current node of a key. -/
def place? (c : Chart) (k : Key) : Option Nat :=
  (c.index.find? fun e => e.1.same k).map Prod.snd

/-- The current node of a key. -/
def find? (c : Chart) (k : Key) : Option Node :=
  (c.place? k).bind c.node?

/-- Whether a key is used. -/
def contains (c : Chart) (k : Key) : Bool :=
  (c.place? k).isSome

/-- Sets the place of a key in an index.  A key that is there keeps its position and its
spelling. -/
def setPlace (k : Key) (place : Nat) : List (Key × Nat) → List (Key × Nat)
  | [] => [(k, place)]
  | (k', p) :: rest =>
    if k'.same k then (k', place) :: rest else (k', p) :: setPlace k place rest

/-- Places a node and makes it the current one of its key. -/
def add (c : Chart) (n : Node) : Chart :=
  { c with placed := c.placed ++ [n], index := setPlace n.key c.placed.length c.index }

/-- Makes a link between the nodes at two places. -/
def connect (c : Chart) (source target : Nat) (branch : Option Text) : Chart :=
  match c.node? source with
  | none => c
  | some s =>
    { c with
      placed :=
        (c.placed.modify source fun n => { n with children := n.children ++ [⟨target, branch⟩] })
          |>.modify target fun n => { n with parents := n.parents ++ [s.key] } }

/-- Makes a link between the current nodes of two keys, unless one of the keys is not used. -/
def link (c : Chart) (r : LinkRecord) : Option Chart :=
  match c.place? r.source, c.place? r.target with
  | some source, some target =>
    some { c.connect source target r.branch with links := c.links ++ [r] }
  | _, _ => none

/-- Replaces the label of a child of the node at a place, unless there is no such child. -/
def relabel (c : Chart) (place child : Nat) (branch : Option Text) : Option Chart :=
  match c.node? place with
  | none => none
  | some n =>
    if child < n.children.length then
      some { c with
        placed := c.placed.modify place fun n =>
          { n with children := n.children.modify child fun e => { e with branch } } }
    else none

/-- The current nodes where a run can start, as places. -/
def starts (c : Chart) : List Nat :=
  c.places.filter fun p => (c.node? p).any Node.isStart

/-- The number of links that leave current nodes. -/
def linkCount (c : Chart) : Nat :=
  (c.nodes.flatMap fun n => n.children).length

/-- Places the nodes of a list of records, in order. -/
def addAll (c : Chart) (rs : List NodeRecord) : Chart :=
  rs.foldl (fun c r => c.add (Node.ofRecord r)) c

/-- Makes the links of a list of records, in order, and lists those that could not be made. -/
def linkAll (c : Chart) : List LinkRecord → Chart × List LinkRecord
  | [] => (c, [])
  | r :: rs =>
    match c.link r with
    | some c' => linkAll c' rs
    | none =>
      let (c', skipped) := linkAll c rs
      (c', r :: skipped)

/-- The chart that records describe, and the links that lead from or to a key that is not
used. -/
def buildWith (nodes : List NodeRecord) (links : List LinkRecord) : Chart × List LinkRecord :=
  (empty.addAll nodes).linkAll links

/-- The chart that records describe. -/
def build (nodes : List NodeRecord) (links : List LinkRecord) : Chart :=
  (buildWith nodes links).1

end Chart

end Flowchart
