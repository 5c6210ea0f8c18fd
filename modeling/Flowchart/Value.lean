import Flowchart.Expr.Basic
import Flowchart.Number.Numeral
import Flowchart.Text.Blank
import Flowchart.Text.Digit
import Flowchart.Text.Quoted

/-! # Values of variables

A variable holds an integer or a truth value, and the two kinds never mix: they are never equal,
and to order one against the other is an error.
-/

namespace Flowchart

/-- The value of a variable. -/
inductive Value where
  | int (n : Int)
  | bool (b : Bool)
deriving DecidableEq

namespace Value

/-- The two kinds of values. -/
inductive Kind where
  | integer
  | boolean
deriving DecidableEq

/-- The name of a kind. -/
def Kind.name : Kind → Text
  | .integer => "integer"
  | .boolean => "boolean"

/-- The kind of a value. -/
def kind : Value → Kind
  | .int _ => .integer
  | .bool _ => .boolean

/-- The text of a value. -/
def text : Value → Except LimitError Text
  | .int n => Numeral.write n
  | .bool b => .ok (if b then "true" else "false")

/-! ## Reading values -/

/-- Why a text is not the text of a value. -/
inductive ReadError where
  /-- The text, stripped of blanks, is neither a truth value nor an integer. -/
  | notAValue (text : Text)
  | limit (error : LimitError)
deriving DecidableEq

/-- The report on a text that is not the text of a value. -/
def ReadError.message : ReadError → Text
  | .notAValue text =>
    "Please enter a valid integer or boolean (true/false), got " ++ Text.quoted text
  | .limit e => e.message

/-- Splits off the sign of an integer. -/
def splitSign : Text → Bool × Text
  | .scalar '-' :: cs => (true, cs)
  | .scalar '+' :: cs => (false, cs)
  | cs => (false, cs)

/-- Reads an integer: a sign, which may be missing, and at least one ASCII digit.  A text of
another form gives `none`. -/
def readInt? (cs : Text) : Option (Except LimitError Int) :=
  let (negative, ds) := splitSign cs
  if !ds.isEmpty && ds.all Text.isAsciiDigit then
    some <|
      match Numeral.read (ds.map Text.digitValue) with
      | .ok n => .ok (if negative then -(n : Int) else n)
      | .error e => .error e
  else none

/-- Reads a value from the text a user typed; blanks at its ends do not matter. -/
def read (text : Text) : Except ReadError Value :=
  let cs := Text.strip text
  if cs = "true" then .ok (.bool true)
  else if cs = "false" then .ok (.bool false)
  else
    match readInt? cs with
    | some (.ok n) => .ok (.int n)
    | some (.error e) => .error (.limit e)
    | none => .error (.notAValue cs)

/-! ## Comparing values -/

/-- Values of different kinds that were to be put in order by the relation with a symbol. -/
structure TypeMismatch where
  left : Kind
  right : Kind
  symbol : Text
deriving DecidableEq

/-- The report on values of different kinds. -/
def TypeMismatch.message (e : TypeMismatch) : Text :=
  "Cannot compare " ++ e.left.name ++ " and " ++ e.right.name ++ " values with '" ++ e.symbol ++
    "'"

/-- Whether a relation holds between two integers. -/
def holdsInt : RelOp → Int → Int → Bool
  | .eq, a, b => a == b
  | .ne, a, b => a != b
  | .lt, a, b => a < b
  | .le, a, b => a ≤ b
  | .gt, a, b => b < a
  | .ge, a, b => b ≤ a

/-- The number that orders a truth value: false comes before true. -/
def rank (b : Bool) : Int :=
  if b then 1 else 0

/-- Compares two values. -/
def compare (op : RelOp) : Value → Value → Except TypeMismatch Bool
  | .int a, .int b => .ok (holdsInt op a b)
  | .bool a, .bool b => .ok (holdsInt op (rank a) (rank b))
  | left, right =>
    match op with
    | .eq => .ok false
    | .ne => .ok true
    | op => .error ⟨left.kind, right.kind, op.symbol⟩

/-- Why values cannot be compared by the relation with a given symbol. -/
inductive CompareError where
  | mismatch (error : TypeMismatch)
  /-- No relation has this symbol. -/
  | unknownSymbol (symbol : Text)
deriving DecidableEq

/-- The relation with a symbol. -/
def relation? (symbol : Text) : Option RelOp :=
  [RelOp.eq, .ne, .lt, .le, .gt, .ge].find? (·.symbol == symbol)

/-- Compares two values by the relation with a symbol.  Values of different kinds are refused
even if there is no such relation. -/
def compareBy (symbol : Text) (left right : Value) : Except CompareError Bool :=
  match relation? symbol with
  | some op => (compare op left right).mapError .mismatch
  | none =>
    if left.kind = right.kind then .error (.unknownSymbol symbol)
    else .error (.mismatch ⟨left.kind, right.kind, symbol⟩)

end Value

/-! ## Division -/

/-- The quotient of two integers with its fraction dropped, so that it is rounded toward zero;
there is none by zero. -/
def divide? (a b : Int) : Option Int :=
  if b = 0 then none else some (a.tdiv b)

end Flowchart
