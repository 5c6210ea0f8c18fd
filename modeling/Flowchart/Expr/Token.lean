import Flowchart.Expr.Basic
import Flowchart.Number.Numeral
import Flowchart.Text.Digit

/-! # Tokens

`lex` cuts the text of an expression into lexemes.  It reads from left to right, skips spaces,
tabs and line ends, and takes the longest lexeme at each place.  It stops early at a character
that starts no lexeme and at an integer that is too long; `Lexed.ending` says how it stopped, and
the lexemes before that place are kept.
-/

namespace Flowchart

/-- A token of an expression. -/
inductive Token where
  | name (x : Text)
  | int (n : Nat)
  | bool (b : Bool)
  | arith (op : ArithOp)
  | assign
  | rel (op : RelOp)
deriving DecidableEq

/-- A token as reports show it. -/
def Token.text : Token → Text
  | .name x => x
  | .int n => Numeral.text n
  | .bool b => if b then "true" else "false"
  | .arith op => op.symbol
  | .assign => "="
  | .rel op => op.symbol

/-- A token with the characters it was read from and the position of the first of them. -/
structure Lexeme where
  token : Token
  position : Nat
  chars : Text
deriving DecidableEq

/-- How the reading of a text ended. -/
inductive Ending where
  | endOfText
  /-- The character at `position` starts no lexeme. -/
  | illegal (c : CodePoint) (position : Nat)
  /-- The next lexeme is an integer that is too long. -/
  | limit (error : LimitError)
deriving DecidableEq

/-- The lexemes of a text and how its reading ended. -/
structure Lexed where
  lexemes : List Lexeme
  ending : Ending
deriving DecidableEq

namespace Lexer

/-- Whether a character may stand between lexemes. -/
def isSpace (c : CodePoint) : Bool :=
  c = ' ' || c = '\t' || c = '\r' || c = '\n'

/-- Whether a character starts a name. -/
def isNameStart : CodePoint → Bool
  | .scalar c => c.isAlpha || c == '_'
  | .surrogate _ => false

/-- Whether a character continues a name.  Names are made of ASCII characters only. -/
def isNameChar : CodePoint → Bool
  | .scalar c => c.isAlphanum || c == '_'
  | .surrogate _ => false

/-- The token of a word. -/
def word (cs : Text) : Token :=
  if cs = "true" then .bool true
  else if cs = "false" then .bool false
  else .name cs

/-- The operator that starts with `c`, where `cs` follows, and its length. -/
def operator? (c : CodePoint) (cs : Text) : Option (Token × Nat) :=
  match c, cs with
  | .scalar '=', .scalar '=' :: _ => some (.rel .eq, 2)
  | .scalar '!', .scalar '=' :: _ => some (.rel .ne, 2)
  | .scalar '<', .scalar '=' :: _ => some (.rel .le, 2)
  | .scalar '>', .scalar '=' :: _ => some (.rel .ge, 2)
  | .scalar '=', _ => some (.assign, 1)
  | .scalar '<', _ => some (.rel .lt, 1)
  | .scalar '>', _ => some (.rel .gt, 1)
  | .scalar '+', _ => some (.arith .add, 1)
  | .scalar '-', _ => some (.arith .sub, 1)
  | .scalar '*', _ => some (.arith .mul, 1)
  | .scalar '/', _ => some (.arith .div, 1)
  | _, _ => none

/-- What a text that does not start with space begins with. -/
inductive Front where
  | lexeme (token : Token) (length : Nat)
  | illegal
  | limit (error : LimitError)

/-- Finds the longest lexeme at the front of `c :: cs`. -/
def front (c : CodePoint) (cs : Text) : Front :=
  if Text.isDigit c then
    let ds := c :: cs.takeWhile Text.isDigit
    match Numeral.read (ds.map Text.digitValue) with
    | .ok n => .lexeme (.int n) ds.length
    | .error e => .limit e
  else if isNameStart c then
    let w := c :: cs.takeWhile isNameChar
    .lexeme (word w) w.length
  else
    match operator? c cs with
    | some (t, n) => .lexeme t n
    | none => .illegal

/-- Cuts the text that starts at `position` into lexemes, after skipping `skip` characters that
belong to a lexeme found before. -/
def lexFrom (position skip : Nat) : Text → Lexed
  | [] => ⟨[], .endOfText⟩
  | c :: cs =>
    match skip with
    | skip + 1 => lexFrom (position + 1) skip cs
    | 0 =>
      if isSpace c then lexFrom (position + 1) 0 cs
      else
        match front c cs with
        | .lexeme token length =>
          let rest := lexFrom (position + 1) (length - 1) cs
          ⟨⟨token, position, (c :: cs).take length⟩ :: rest.lexemes, rest.ending⟩
        | .illegal => ⟨[], .illegal c position⟩
        | .limit e => ⟨[], .limit e⟩

/-- To skip characters is to start behind them. -/
theorem lexFrom_skip (position n : Nat) (cs : Text) :
    lexFrom position n cs = lexFrom (position + n) 0 (cs.drop n) := by
  induction cs generalizing position n with
  | nil => simp [lexFrom]
  | cons c cs ih =>
    cases n with
    | zero => rfl
    | succ n =>
      rw [List.drop_succ_cons, lexFrom, ih, Nat.add_assoc, Nat.add_comm 1 n]

end Lexer

/-- Cuts a text into lexemes. -/
def lex (text : Text) : Lexed :=
  Lexer.lexFrom 0 0 text

end Flowchart
