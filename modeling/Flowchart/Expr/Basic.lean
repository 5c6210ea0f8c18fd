import Flowchart.Text.Basic

/-! # Expressions on a flowchart

A process carries an action, which assigns a variable or updates it by an arithmetic operation,
and a decision carries a condition, which compares a variable with something.  Every expression
has exactly three parts: a variable, an operator and an operand.
-/

namespace Flowchart

/-- The operation of an update. -/
inductive ArithOp where
  | add
  | sub
  | mul
  | div
deriving DecidableEq

/-- The symbol of an operation. -/
def ArithOp.symbol : ArithOp → Text
  | .add => "+"
  | .sub => "-"
  | .mul => "*"
  | .div => "/"

/-- The relation of a comparison. -/
inductive RelOp where
  | eq
  | ne
  | lt
  | le
  | gt
  | ge
deriving DecidableEq

/-- The symbol of a relation. -/
def RelOp.symbol : RelOp → Text
  | .eq => "=="
  | .ne => "!="
  | .lt => "<"
  | .le => "<="
  | .gt => ">"
  | .ge => ">="

/-- The right side of an expression: a literal or a variable. -/
inductive Operand where
  | int (n : Nat)
  | bool (b : Bool)
  | name (x : Text)
deriving DecidableEq

/-- An action or a condition. -/
inductive Expr where
  /-- Gives the variable `target` the value of the operand. -/
  | assignment (target : Text) (operand : Operand)
  /-- Replaces the value of `target` by the result of an operation on it and the operand. -/
  | update (target : Text) (op : ArithOp) (operand : Operand)
  /-- Asks whether the variable `left` stands in a relation to the operand. -/
  | comparison (left : Text) (op : RelOp) (operand : Operand)
deriving DecidableEq

namespace Expr

/-- Whether an expression can be the action of a process. -/
def isAction : Expr → Bool
  | .assignment .. | .update .. => true
  | .comparison .. => false

/-- Whether an expression can be the condition of a decision. -/
def isCondition : Expr → Bool
  | .comparison .. => true
  | .assignment .. | .update .. => false

end Expr

end Flowchart
