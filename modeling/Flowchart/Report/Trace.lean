import Flowchart.Simulation.Basic

/-! # The trace of a run

The trace lists the nodes that were passed, with what they hold, and the variables at the end.
-/

namespace Flowchart

namespace Trace

/-- A line of the trace: a node by its label and its kind, and what it holds. -/
structure Entry where
  text : Text
  kind : Kind
  role : Option Json := none
  action : Option Text := none
  condition : Option Text := none

/-- The entry of a node that was passed. -/
def Entry.ofVisit (v : Visit) : Entry where
  text := v.text
  kind := v.content.kind
  role := v.content.role?
  action := v.content.action?
  condition := v.content.condition?

/-- The role of a state in brackets, unless it is missing. -/
def roleNote : Option Json → Except LimitError Text
  | none => .ok ""
  | some role =>
    if role.isTruthy then do
      let s ← role.display
      return " [" ++ s ++ "]"
    else .ok ""

/-- What stands behind the label of an entry. -/
def Entry.note (e : Entry) : Except LimitError Text :=
  match e.kind with
  | .state => roleNote e.role
  | .process => .ok (Text.headed " - Action: " e.action)
  | .decision => .ok (Text.headed " - Condition: " e.condition)
  | .generic | .other _ => .ok ""

/-- The line of an entry. -/
def Entry.line (number : Nat) (e : Entry) : Except LimitError Text := do
  let note ← e.note
  return Numeral.text number ++ ". " ++ e.text ++ " (" ++ e.kind.name ++ ")" ++ note

/-- The lines of entries, numbered from `number`. -/
def lines (number : Nat) : List Entry → Except LimitError (List Text)
  | [] => .ok []
  | e :: es => do
    let line ← e.line number
    let rest ← lines (number + 1) es
    return line :: rest

/-- The line of a variable. -/
def binding (x : Text) (v : Value) : Except LimitError Text := do
  let v ← v.text
  return x ++ " = " ++ v

/-- The lines of variables. -/
def bindings : List (Text × Value) → Except LimitError (List Text)
  | [] => .ok []
  | (x, v) :: bs => do
    let line ← binding x v
    let rest ← bindings bs
    return line :: rest

/-- The report on an error that stands before a trace.  An empty report counts as none. -/
def heading : Option Text → Text
  | none => ""
  | some e => if e.isEmpty then "" else "Error: " ++ e ++ "\n\n"

/-- The text of a trace. -/
def render (path : List Entry) (error : Option Text) (env : Env) :
    Except LimitError Text :=
  if path.isEmpty then .ok "No simulation path available."
  else do
    let lines ← lines 1 path
    let bindings ← bindings env.bindings
    let values : Text :=
      if bindings.isEmpty then "No variables defined" else Text.joinWith "\n" bindings
    return heading error ++ "Execution Path:\n" ++ Text.joinWith "\n" lines ++
      "\n\nVariable Values After Simulation:\n" ++ values

end Trace

/-- The trace of a run. -/
def RunResult.trace (r : RunResult) : Except LimitError Text :=
  Trace.render (r.path.map Trace.Entry.ofVisit) (r.error.map RunError.message) r.env

end Flowchart
