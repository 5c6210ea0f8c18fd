import Flowchart.Expr.Parser
import Flowchart.Record

/-! # The editor's model

The editor saves a flowchart as a JSON object with a list of nodes and a list of links.  `load`
turns it into records and refuses a model whose shape is wrong.  The shape of the model and of
its entries is checked first, nodes before links; then the entries are read one by one.
-/

namespace Flowchart.Model

/-- The two lists of a model. -/
inductive Section where
  | nodes
  | links
deriving DecidableEq

/-- The name of a list of a model. -/
def Section.name : Section → Text
  | .nodes => "nodes"
  | .links => "links"

/-- Why a model is refused.  What was found instead is given by the name of its kind. -/
inductive LoadError where
  | notAnObject (found : Text)
  | notAList (part : Section) (found : Text)
  | entryNotAnObject (part : Section) (index : Nat) (found : Text)
  /-- A field that has to be a single value is a list or an object. -/
  | fieldNotScalar (part : Section) (index : Nat) (field : Text) (found : Text)
  | limit (error : LimitError)
deriving DecidableEq

/-- The place of an entry. -/
def Section.entry (part : Section) (index : Nat) : Text :=
  part.name ++ "[" ++ Numeral.text index ++ "]"

/-- The report on a model that is refused. -/
def LoadError.message : LoadError → Text
  | .notAnObject found => "flowchart model must be a JSON object, got " ++ found
  | .notAList part found => "'" ++ part.name ++ "' must be a list, got " ++ found
  | .entryNotAnObject part index found =>
    part.entry index ++ " must be an object, got " ++ found
  | .fieldNotScalar part index field found =>
    part.entry index ++ "." ++ field ++ " must be a string or a number, got " ++ found
  | .limit e => e.message

/-- The fields of an entry. -/
abbrev Fields := List (Text × Json)

/-- The entries of a list, numbered from `index`. -/
def entries (part : Section) (index : Nat) : List Json → Except LoadError (List Fields)
  | [] => .ok []
  | .object fields :: items => do
    let rest ← entries part (index + 1) items
    return fields :: rest
  | v :: _ => .error (.entryNotAnObject part index v.kindName)

/-- The entries of one of the two lists of a model.  A list that is missing, or whose place is
taken by a value that counts as absent, has no entries. -/
def sectionEntries (part : Section) (model : Fields) : Except LoadError (List Fields) :=
  let v := Json.fieldD part.name model
  if v.isTruthy then
    match v with
    | .list items => entries part 0 items
    | v => .error (.notAList part v.kindName)
  else .ok []

/-- A field that has to be a single value; null if it is missing. -/
def scalar (part : Section) (index : Nat) (field : Text) (entry : Fields) :
    Except LoadError Key :=
  let v := Json.fieldD field entry
  match Key.ofJson? v with
  | some k => .ok k
  | none => .error (.fieldNotScalar part index field v.kindName)

/-- The label that a value stands for. -/
def label (v : Json) : Except LoadError Text :=
  v.display.mapError .limit

/-- The text in a field, where null and the empty text mean that there is none. -/
def optionalText : Json → Except LoadError (Option Text)
  | .null => .ok none
  | .text s => .ok (if s.isEmpty then none else some s)
  | v => do
    let s ← label v
    return some s

/-- The label of a link, where null and the empty text mean that there is none. -/
def branchLabel : Key → Except LoadError (Option Text)
  | .null => .ok none
  | .text s => .ok (if s.isEmpty then none else some s)
  | .bool b => .ok (some (if b then "true" else "false"))
  | k => do
    let s ← label k.toJson
    return some s

/-- The code of a node: the one it has, or else its label if that is code itself. -/
def orLabel (isCode : Text → Except LimitError Bool) (text : Text) (code : Option Text) :
    Except LoadError (Option Text) :=
  match code with
  | some s => .ok (some s)
  | none =>
    match isCode text with
    | .ok true => .ok (some text)
    | .ok false => .ok none
    | .error e => .error (.limit e)

/-- Reads a node.  With `labelsAsCode` the label of a process without an action becomes its
action if it is one, and likewise for the condition of a decision. -/
def loadNode (labelsAsCode : Bool) (index : Nat) (entry : Fields) :
    Except LoadError NodeRecord := do
  let figure ← scalar .nodes index "figure" entry
  let kind := Kind.ofFigure figure
  let stored := Json.fieldD "text" entry
  let text ← if stored.isTruthy then label stored else .ok unnamed
  let action ← optionalText (Json.fieldD "action" entry)
  let condition ← optionalText (Json.fieldD "condition" entry)
  let action ←
    if labelsAsCode && kind = .process then orLabel isValidAction text action else .ok action
  let condition ←
    if labelsAsCode && kind = .decision then orLabel isValidCondition text condition
    else .ok condition
  let key ← scalar .nodes index "key" entry
  let role := Json.fieldD "stateType" entry
  return {
    key
    kind
    text
    action := if kind = .process then action else none
    condition := if kind = .decision then condition else none
    role := if kind = .state then some (if role.isTruthy then role else normalRole) else none }

/-- Reads a link. -/
def loadLink (index : Nat) (entry : Fields) : Except LoadError LinkRecord := do
  let source ← scalar .links index "from" entry
  let target ← scalar .links index "to" entry
  let branchType ← scalar .links index "branchType" entry
  let branch ← branchLabel branchType
  return { source, target, branch }

/-- Reads the entries of a list in turn, numbered from `index`. -/
def loadAll {α : Type} (load : Nat → Fields → Except LoadError α) (index : Nat) :
    List Fields → Except LoadError (List α)
  | [] => .ok []
  | entry :: rest => do
    let record ← load index entry
    let records ← loadAll load (index + 1) rest
    return record :: records

/-- The records of a flowchart. -/
structure Records where
  nodes : List NodeRecord
  links : List LinkRecord

/-- Reads a model. -/
def load (labelsAsCode : Bool) (model : Json) : Except LoadError Records :=
  match model with
  | .object fields => do
    let nodeEntries ← sectionEntries .nodes fields
    let linkEntries ← sectionEntries .links fields
    let nodes ← loadAll (loadNode labelsAsCode) 0 nodeEntries
    let links ← loadAll loadLink 0 linkEntries
    return { nodes, links }
  | v => .error (.notAnObject v.kindName)

end Flowchart.Model
