import Flowchart.Condition

/-! # Why a run stops -/

namespace Flowchart

/-- Why a run stops before its end.  Decisions are named by their label. -/
inductive RunError where
  | invalidChart
  | missingStart
  | multipleStarts
  | decision (label : Text) (cause : ConditionError)
  /-- A decision has not exactly one link for each answer. -/
  | branchMismatch (label : Text)
  /-- The true branch of a decision would be taken a second time. -/
  | branchRetraversal (label : Text)
  /-- A node would be passed a second time. -/
  | loop
deriving DecidableEq

/-- The report on a run that stops. -/
def RunError.message : RunError → Text
  | .invalidChart => "Cannot simulate invalid flowchart. Please fix validation errors first."
  | .missingStart => "No start state found in the flowchart."
  | .multipleStarts =>
    "Multiple start states found. The flowchart must have exactly one start state."
  | .decision label cause => "Error at decision node \"" ++ label ++ "\": " ++ cause.message
  | .branchMismatch label =>
    "Decision node \"" ++ label ++
      "\" must have exactly one true branch and one false branch"
  | .branchRetraversal label =>
    "Cannot traverse the same true branch twice at decision node \"" ++ label ++ "\""
  | .loop => "Loop detected. Loops are not supported in simulation."

/-- The kind of an error, without the decision that it names. -/
def RunError.kind : RunError → Text
  | .invalidChart => "InvalidFlowchart"
  | .missingStart => "MissingStartState"
  | .multipleStarts => "MultipleStartStates"
  | .decision .. => "DecisionError"
  | .branchMismatch _ => "BranchMismatch"
  | .branchRetraversal _ => "BranchRetraversal"
  | .loop => "LoopDetected"

/-- Why a step failed: the run stops, or a numeral is too long and there is no run to speak
of. -/
inductive StepFailure where
  | stop (error : RunError)
  | limit (error : LimitError)
deriving DecidableEq

end Flowchart
