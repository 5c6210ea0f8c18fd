import Flowchart.Env
import Flowchart.Expr.Parser

/-! # Actions

An action that cannot be performed leaves the environment as it is; a notice says why.  Only an
integer that is too long stops the run.
-/

namespace Flowchart

/-- Why an action was not performed. -/
inductive ActionNotice where
  | malformed (error : SyntaxError)
  /-- The text is a condition. -/
  | comparison
  /-- The operand is a variable without a value. -/
  | undefinedOperand (x : Text)
  /-- The variable to be updated has no value. -/
  | undefinedTarget (x : Text)
  /-- One side of the operation is a truth value. -/
  | booleanArithmetic
  | divisionByZero
deriving DecidableEq

/-- The result of an operation, unless it is a division by zero. -/
def ArithOp.apply? : ArithOp → Int → Int → Option Int
  | .add, a, b => some (a + b)
  | .sub, a, b => some (a - b)
  | .mul, a, b => some (a * b)
  | .div, a, b => divide? a b

/-- The value of an update, from the values of its two sides. -/
def ArithOp.update (op : ArithOp) : Value → Value → Except ActionNotice Value
  | .int a, .int b =>
    match op.apply? a b with
    | some n => .ok (.int n)
    | none => .error .divisionByZero
  | _, _ => .error .booleanArithmetic

/-- Performs an expression as an action.  The operand is looked up before the target. -/
def Expr.perform (env : Env) : Expr → Except ActionNotice Env
  | .comparison .. => .error .comparison
  | .assignment x operand =>
    match operand.resolve env with
    | .error y => .error (.undefinedOperand y)
    | .ok v => .ok (env.set x v)
  | .update x op operand =>
    match operand.resolve env with
    | .error y => .error (.undefinedOperand y)
    | .ok v =>
      match env.get? x with
      | none => .error (.undefinedTarget x)
      | some current => do
        let result ← op.update current v
        return env.set x result

namespace Action

/-- What became of an action: the environment after it, and a notice if it was not
performed. -/
structure Outcome where
  env : Env
  notice : Option ActionNotice
deriving DecidableEq

/-- Performs the action of a process.  A missing or empty action does nothing. -/
def run (action : Option Text) (env : Env) : Except LimitError Outcome :=
  match action with
  | none => .ok ⟨env, none⟩
  | some text =>
    if text.isEmpty then .ok ⟨env, none⟩
    else
      match Expr.parse text with
      | .error (.limit e) => .error e
      | .error (.malformed e) => .ok ⟨env, some (.malformed e)⟩
      | .ok e =>
        match e.perform env with
        | .ok env' => .ok ⟨env', none⟩
        | .error notice => .ok ⟨env, some notice⟩

end Action

end Flowchart
