import Flowchart.Env
import Flowchart.Expr.Parser

/-! # Conditions -/

namespace Flowchart

/-- Why a condition has no truth value. -/
inductive ConditionError where
  | missing
  /-- The text is not a comparison. -/
  | malformed (condition : Text)
  /-- The variable on the left side has no value. -/
  | undefinedVariable (x : Text)
  /-- The variable on the right side has no value. -/
  | undefinedOperand (x : Text)
  | typeMismatch (error : Value.TypeMismatch)
deriving DecidableEq

/-- The report on a condition without a truth value. -/
def ConditionError.message : ConditionError → Text
  | .missing => "Decision node has no condition"
  | .malformed condition => "Invalid condition format: " ++ condition
  | .undefinedVariable x => "Variable \"" ++ x ++ "\" is not defined"
  | .undefinedOperand x => "Invalid or undefined value in condition: " ++ x
  | .typeMismatch e => e.message

/-- Why the evaluation of a condition failed. -/
inductive ConditionFailure where
  | condition (error : ConditionError)
  | limit (error : LimitError)
deriving DecidableEq

/-- Compares a variable with an operand.  The left side is looked up first. -/
def Expr.compare (env : Env) (left : Text) (op : RelOp) (operand : Operand) :
    Except ConditionError Bool :=
  match env.get? left with
  | none => .error (.undefinedVariable left)
  | some a =>
    match operand.resolve env with
    | .error x => .error (.undefinedOperand x)
    | .ok b => (Value.compare op a b).mapError .typeMismatch

namespace Condition

/-- Evaluates the text of a condition.  All of its tokens are read before it is taken apart. -/
def evaluateText (text : Text) (env : Env) : Except ConditionFailure Bool :=
  match tokenize text with
  | .error (.limit e) => .error (.limit e)
  | .error (.malformed _) => .error (.condition (.malformed text))
  | .ok lexemes =>
    if lexemes.length ≠ 3 then .error (.condition (.malformed text))
    else
      match Expr.parse text with
      | .error (.limit e) => .error (.limit e)
      | .error (.malformed _) => .error (.condition (.malformed text))
      | .ok (.comparison left op operand) =>
        (Expr.compare env left op operand).mapError .condition
      | .ok _ => .error (.condition (.malformed text))

/-- Evaluates the condition of a decision, which may be missing. -/
def evaluate (condition : Option Text) (env : Env) : Except ConditionFailure Bool :=
  match condition with
  | none => .error (.condition .missing)
  | some text =>
    if text.isEmpty then .error (.condition .missing) else evaluateText text env

end Condition

end Flowchart
