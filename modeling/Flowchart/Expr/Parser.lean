import Flowchart.Expr.Token

/-! # Reading expressions

A text is read token by token.  It is refused at the first token that cannot go on from the
tokens before it, so whatever stands behind that token has no influence: not even a character
that starts no token, or an integer that is too long, is noticed there.
-/

namespace Flowchart

/-- Why a text is not an expression. -/
inductive SyntaxError where
  /-- The character at `position` starts no token. -/
  | illegalCharacter (c : CodePoint) (position : Nat)
  /-- The token cannot stand where it stands. -/
  | unexpectedToken (token : Token)
  /-- The text ends in the middle of an expression. -/
  | unexpectedEnd
deriving DecidableEq

/-- The report on a text that is not an expression. -/
def SyntaxError.message : SyntaxError → Text
  | .illegalCharacter c position =>
    "Illegal character '" ++ [c] ++ "' at position " ++ Numeral.text position
  | .unexpectedToken token => "Syntax error at '" ++ token.text ++ "'"
  | .unexpectedEnd => "Syntax error at end of expression"

/-- Why the reading of an expression failed. -/
inductive ExprError where
  | malformed (error : SyntaxError)
  | limit (error : LimitError)
deriving DecidableEq

/-- The report on a failed reading. -/
def ExprError.message : ExprError → Text
  | .malformed e => e.message
  | .limit e => e.message

/-- What the end of the reading means where another token is needed. -/
def Ending.failure : Ending → ExprError
  | .endOfText => .malformed .unexpectedEnd
  | .illegal c position => .malformed (.illegalCharacter c position)
  | .limit e => .limit e

/-- The tokens of a whole text. -/
def tokenize (text : Text) : Except ExprError (List Lexeme) :=
  let lexed := lex text
  match lexed.ending with
  | .endOfText => .ok lexed.lexemes
  | ending => .error ending.failure

namespace Expr

/-- The operator of an expression: what makes it an assignment, an update or a comparison. -/
inductive Operator where
  | assign
  | arith (op : ArithOp)
  | rel (op : RelOp)
deriving DecidableEq

/-- The operator that a token is. -/
def operator? : Token → Option Operator
  | .assign => some .assign
  | .arith op => some (.arith op)
  | .rel op => some (.rel op)
  | .name _ | .int _ | .bool _ => none

/-- The operand that a token is after an operator; truth values can only be compared with. -/
def operand? (operator : Operator) : Token → Option Operand
  | .int n => some (.int n)
  | .name x => some (.name x)
  | .bool b =>
    match operator with
    | .rel _ => some (.bool b)
    | .assign | .arith _ => none
  | .assign | .arith _ | .rel _ => none

/-- The expression with the given parts. -/
def ofParts (x : Text) (operator : Operator) (operand : Operand) : Expr :=
  match operator with
  | .assign => .assignment x operand
  | .arith op => .update x op operand
  | .rel op => .comparison x op operand

/-- Reads the end of the text after a complete expression. -/
def readEnd (e : Expr) : List Token → Ending → Except ExprError Expr
  | [], .endOfText => .ok e
  | [], ending => .error ending.failure
  | t :: _, _ => .error (.malformed (.unexpectedToken t))

/-- Reads what follows a variable and an operator. -/
def readOperand (x : Text) (operator : Operator) :
    List Token → Ending → Except ExprError Expr
  | [], ending => .error ending.failure
  | t :: ts, ending =>
    match operand? operator t with
    | some operand => readEnd (ofParts x operator operand) ts ending
    | none => .error (.malformed (.unexpectedToken t))

/-- Reads what follows a variable. -/
def readOperator (x : Text) : List Token → Ending → Except ExprError Expr
  | [], ending => .error ending.failure
  | t :: ts, ending =>
    match operator? t with
    | some operator => readOperand x operator ts ending
    | none => .error (.malformed (.unexpectedToken t))

/-- Reads a whole expression. -/
def ofTokens : List Token → Ending → Except ExprError Expr
  | [], ending => .error ending.failure
  | .name x :: ts, ending => readOperator x ts ending
  | t :: _, _ => .error (.malformed (.unexpectedToken t))

/-- Reads the text of an expression. -/
def parse (text : Text) : Except ExprError Expr :=
  let lexed := lex text
  ofTokens (lexed.lexemes.map (·.token)) lexed.ending

end Expr

/-- Whether reading a text gives an expression of some sort; a text that is not an expression
is of no sort. -/
def parsesTo (sort : Expr → Bool) (text : Text) : Except LimitError Bool :=
  match Expr.parse text with
  | .ok e => .ok (sort e)
  | .error (.malformed _) => .ok false
  | .error (.limit e) => .error e

/-- Whether a text is an action. -/
def isValidAction (text : Text) : Except LimitError Bool :=
  parsesTo Expr.isAction text

/-- Whether a text is a condition. -/
def isValidCondition (text : Text) : Except LimitError Bool :=
  parsesTo Expr.isCondition text

end Flowchart
