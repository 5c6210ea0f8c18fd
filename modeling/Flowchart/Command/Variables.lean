import Flowchart.Env

/-! # Variables on the command line

Each item has the form NAME=VALUE.  The name ends at the first equals sign, and blanks around
the name and the value do not matter.
-/

namespace Flowchart.Command

/-- Why an item is refused. -/
inductive VariableError where
  /-- The item has no equals sign or no name. -/
  | notAnAssignment (item : Text)
  | badValue (name : Text) (error : Value.ReadError)
deriving DecidableEq

/-- The report on an item that is refused. -/
def VariableError.message : VariableError → Text
  | .notAnAssignment item => "expected NAME=VALUE, got " ++ Text.quoted item
  | .badValue name e => name ++ ": " ++ e.message

/-- Splits a text at the first equals sign, if it has one. -/
def splitAtEquals? : Text → Option (Text × Text)
  | [] => none
  | c :: cs =>
    if c = '=' then some ([], cs)
    else (splitAtEquals? cs).map fun (name, value) => (c :: name, value)

/-- Reads an item. -/
def readVariable (item : Text) : Except VariableError (Text × Value) :=
  match splitAtEquals? item with
  | none => .error (.notAnAssignment item)
  | some (name, value) =>
    let name := Text.strip name
    if name.isEmpty then .error (.notAnAssignment item)
    else
      match Value.read value with
      | .ok v => .ok (name, v)
      | .error e => .error (.badValue name e)

/-- Reads items in order on top of an environment. -/
def readVariablesOn (env : Env) : List Text → Except VariableError Env
  | [] => .ok env
  | item :: items => do
    let (x, v) ← readVariable item
    readVariablesOn (env.set x v) items

/-- Reads items: each name is bound to its last value, in the order of first occurrence. -/
def readVariables (items : List Text) : Except VariableError Env :=
  readVariablesOn .empty items

end Flowchart.Command
